import Mathlib.Data.List.Nodup
import Mathlib.Data.List.Perm.Subperm
import Mathlib.Tactic.Lemma

/-!
# Walking down from the roots

Nodes with children, of which nothing is assumed but that no node has two parents and that a
root has none; links may run in a circle.  A walk from the roots visits the children of every
node it visits, without remembering where it has been.

It ends nevertheless.  A node that is reached from a root has a depth, and only one
(`atDepth_unique`), so that the nodes on the way to it are distinct and fewer than all
(`atDepth_lt`): what lies on a circle is never reached.  The walk visits every node that has a
depth, once (`walk_roots`).
-/

namespace Framework

/-- Nodes with at most one parent each. -/
structure Forest (ι : Type) where
  nodes : List ι
  roots : List ι
  children : ι → List ι
  roots_nodup : roots.Nodup
  children_nodup : ∀ x, (children x).Nodup
  roots_subset : roots ⊆ nodes
  children_subset : ∀ x, children x ⊆ nodes
  one_parent : ∀ {x p q}, x ∈ children p → x ∈ children q → p = q
  root_no_parent : ∀ {x p}, x ∈ roots → x ∉ children p

namespace Forest

variable {ι : Type} (F : Forest ι)

/-! ## Depth -/

/-- The node is reached from a root in so many steps. -/
def AtDepth : ℕ → ι → Prop
  | 0, x => x ∈ F.roots
  | n + 1, x => ∃ p, x ∈ F.children p ∧ AtDepth n p

variable {F} {x y : ι} {n m d : ℕ}

lemma AtDepth.mem_nodes (h : F.AtDepth n x) : x ∈ F.nodes := by
  cases n with
  | zero => exact F.roots_subset h
  | succ n =>
      obtain ⟨p, hx, -⟩ := h
      exact F.children_subset p hx

/-- A node has one depth at most: the way up from it is determined. -/
lemma atDepth_unique (h : F.AtDepth n x) (h' : F.AtDepth m x) : n = m := by
  induction n generalizing m x with
  | zero =>
      cases m with
      | zero => rfl
      | succ m =>
          obtain ⟨p, hx, -⟩ := h'
          exact absurd hx (F.root_no_parent h)
  | succ n ih =>
      obtain ⟨p, hx, hp⟩ := h
      cases m with
      | zero => exact absurd hx (F.root_no_parent h')
      | succ m =>
          obtain ⟨q, hx', hq⟩ := h'
          obtain rfl := F.one_parent hx hx'
          rw [ih hp hq]

/-- The nodes on the way to a node have different depths. -/
lemma exists_path (h : F.AtDepth n x) : ∃ path : List ι, path.length = n + 1 ∧ path.Nodup ∧
    ∀ y ∈ path, ∃ k ≤ n, F.AtDepth k y := by
  induction n generalizing x with
  | zero =>
      refine ⟨[x], rfl, List.nodup_singleton x, fun y hy => ⟨0, Nat.le_refl 0, ?_⟩⟩
      rw [List.mem_singleton.mp hy]
      exact h
  | succ n ih =>
      obtain ⟨p, hx, hp⟩ := h
      obtain ⟨path, hlength, hnodup, hdepths⟩ := ih hp
      have hdeep : F.AtDepth (n + 1) x := ⟨p, hx, hp⟩
      refine ⟨x :: path, by rw [List.length_cons, hlength], List.nodup_cons.mpr ⟨?_, hnodup⟩, ?_⟩
      · intro hmem
        obtain ⟨k, hk, hdepth⟩ := hdepths x hmem
        have heq := atDepth_unique hdeep hdepth
        omega
      · intro y hy
        rcases List.mem_cons.mp hy with rfl | hy
        · exact ⟨n + 1, Nat.le_refl _, hdeep⟩
        · obtain ⟨k, hk, hdepth⟩ := hdepths y hy
          exact ⟨k, by omega, hdepth⟩

/-- No node is as deep as there are nodes. -/
theorem atDepth_lt (h : F.AtDepth n x) : n < F.nodes.length := by
  obtain ⟨path, hlength, hnodup, hdepths⟩ := exists_path h
  have hsubset : path ⊆ F.nodes := fun y hy => by
    obtain ⟨k, -, hdepth⟩ := hdepths y hy
    exact hdepth.mem_nodes
  have hle := (List.subperm_of_subset hnodup hsubset).length_le
  omega

/-! ## Descendants -/

variable (F) in
/-- The second node is so many steps below the first one. -/
def Below : ℕ → ι → ι → Prop
  | 0, x, y => y = x
  | k + 1, x, y => ∃ z ∈ F.children x, Below k z y

lemma below_succ {k : ℕ} :
    F.Below (k + 1) x y ↔ ∃ p, F.Below k x p ∧ y ∈ F.children p := by
  induction k generalizing x with
  | zero => simp [Below]
  | succ k ih =>
      constructor
      · rintro ⟨z, hz, hbelow⟩
        obtain ⟨p, hp, hy⟩ := ih.mp hbelow
        exact ⟨p, ⟨z, hz, hp⟩, hy⟩
      · rintro ⟨p, ⟨z, hz, hp⟩, hy⟩
        exact ⟨z, hz, ih.mpr ⟨p, hp, hy⟩⟩

lemma Below.atDepth {k : ℕ} (h : F.Below k x y) (hx : F.AtDepth d x) : F.AtDepth (d + k) y := by
  induction k generalizing y with
  | zero =>
      obtain rfl : y = x := h
      exact hx
  | succ k ih =>
      obtain ⟨p, hp, hy⟩ := below_succ.mp h
      exact ⟨p, hy, ih hp⟩

/-- Two nodes that are as far above a third one are the same. -/
lemma Below.unique {k : ℕ} {x' : ι} (h : F.Below k x y) (h' : F.Below k x' y) : x = x' := by
  induction k generalizing y with
  | zero =>
      obtain rfl : y = x := h
      exact h'
  | succ k ih =>
      obtain ⟨p, hp, hy⟩ := below_succ.mp h
      obtain ⟨q, hq, hy'⟩ := below_succ.mp h'
      obtain rfl := F.one_parent hy hy'
      exact ih hp hq

/-- Below two nodes of one depth there is nothing in common. -/
lemma Below.unique_of_depth {k k' : ℕ} {x' : ι} (hx : F.AtDepth d x) (hx' : F.AtDepth d x')
    (h : F.Below k x y) (h' : F.Below k' x' y) : k = k' ∧ x = x' := by
  have hdepth := atDepth_unique (h.atDepth hx) (h'.atDepth hx')
  obtain rfl : k = k' := by omega
  exact ⟨rfl, h.unique h'⟩

/-- A node has a depth when it is below a root. -/
lemma atDepth_iff_below : F.AtDepth n x ↔ ∃ root ∈ F.roots, F.Below n root x := by
  induction n generalizing x with
  | zero => simp [AtDepth, Below]
  | succ n ih =>
      constructor
      · rintro ⟨p, hx, hp⟩
        obtain ⟨root, hroot, hbelow⟩ := ih.mp hp
        exact ⟨root, hroot, below_succ.mpr ⟨p, hbelow, hx⟩⟩
      · rintro ⟨root, hroot, hbelow⟩
        obtain ⟨p, hp, hx⟩ := below_succ.mp hbelow
        exact ⟨p, hx, ih.mpr ⟨root, hroot, hp⟩⟩

/-! ## The walk -/

variable (F) in
/-- The nodes of a list and all their descendants, each before its own; nothing when the walk
does not end within so many levels. -/
def walk : ℕ → List ι → Option (List ι)
  | 0, _ => none
  | n + 1, xs => (xs.mapM fun x => (walk n (F.children x)).map (x :: ·)).map List.flatten

variable (F) in
/-- What the walk visits from a node, to a depth. -/
def visited : ℕ → ι → List ι
  | 0, _ => []
  | n + 1, x => x :: (F.children x).flatMap (visited n)

lemma mapM_eq_some_map {α β : Type} {f : α → Option β} {g : α → β} {xs : List α}
    (h : ∀ x ∈ xs, f x = some (g x)) : xs.mapM f = some (xs.map g) := by
  induction xs with
  | nil => rfl
  | cons x xs ih =>
      rw [List.mapM_cons, h x List.mem_cons_self, ih fun y hy => h y (List.mem_cons_of_mem x hy)]
      rfl

/-- From nodes of one depth the walk ends as soon as it is given the levels that are left. -/
lemma walk_eq_some {xs : List ι} (hdepth : ∀ x ∈ xs, F.AtDepth d x) (hd : d ≤ F.nodes.length)
    (hlevels : F.nodes.length < d + n) : F.walk n xs = some (xs.flatMap (F.visited n)) := by
  induction n generalizing d xs with
  | zero => omega
  | succ n ih =>
      have hstep : ∀ x ∈ xs, (F.walk n (F.children x)).map (x :: ·) =
          some (F.visited (n + 1) x) := by
        intro x hx
        have hlt := atDepth_lt (hdepth x hx)
        have hchildren : ∀ y ∈ F.children x, F.AtDepth (d + 1) y :=
          fun y hy => ⟨x, hy, hdepth x hx⟩
        rw [ih hchildren (by omega) (by omega)]
        rfl
      rw [walk, mapM_eq_some_map hstep, Option.map_some, List.flatMap]

lemma mem_visited : y ∈ F.visited n x ↔ ∃ k < n, F.Below k x y := by
  induction n generalizing x with
  | zero => simp [visited]
  | succ n ih =>
      rw [visited, List.mem_cons, List.mem_flatMap]
      constructor
      · rintro (rfl | ⟨z, hz, hy⟩)
        · exact ⟨0, Nat.succ_pos n, rfl⟩
        · obtain ⟨k, hk, hbelow⟩ := ih.mp hy
          exact ⟨k + 1, Nat.succ_lt_succ hk, z, hz, hbelow⟩
      · rintro ⟨k, hk, hbelow⟩
        cases k with
        | zero => exact .inl hbelow
        | succ k =>
            obtain ⟨z, hz, hbelow⟩ := hbelow
            exact .inr ⟨z, hz, ih.mpr ⟨k, Nat.lt_of_succ_lt_succ hk, hbelow⟩⟩

lemma nodup_flatMap_visited {xs : List ι} (hxs : xs.Nodup) (hdepth : ∀ x ∈ xs, F.AtDepth d x) :
    (xs.flatMap (F.visited n)).Nodup := by
  induction n generalizing d xs with
  | zero =>
      have hnone : xs.flatMap (F.visited 0) = [] := List.flatMap_eq_nil_iff.mpr fun _ _ => rfl
      rw [hnone]
      exact List.nodup_nil
  | succ n ih =>
      refine List.nodup_flatMap.mpr ⟨fun x hx => ?_, hxs.imp_of_mem ?_⟩
      · have hchildren : ∀ y ∈ F.children x, F.AtDepth (d + 1) y :=
          fun y hy => ⟨x, hy, hdepth x hx⟩
        refine List.nodup_cons.mpr ⟨fun hmem => ?_, ih (F.children_nodup x) hchildren⟩
        -- a node among its own descendants would have two depths
        obtain ⟨y, hy, hmem⟩ := List.mem_flatMap.mp hmem
        obtain ⟨k, -, hbelow⟩ := mem_visited.mp hmem
        have heq := atDepth_unique (hdepth x hx) (hbelow.atDepth (hchildren y hy))
        omega
      · intro x x' hx hx' hne y hy hy'
        obtain ⟨k, -, hbelow⟩ := mem_visited.mp hy
        obtain ⟨k', -, hbelow'⟩ := mem_visited.mp hy'
        exact hne (hbelow.unique_of_depth (hdepth x hx) (hdepth x' hx') hbelow').2

/-- **The walk from the roots**: it ends and visits the nodes that have a depth, each once. -/
theorem walk_roots (hlevels : F.nodes.length < n) : ∃ out, F.walk n F.roots = some out ∧
    out.Nodup ∧ ∀ y, y ∈ out ↔ ∃ k, F.AtDepth k y := by
  have hdepth : ∀ x ∈ F.roots, F.AtDepth 0 x := fun x hx => hx
  refine ⟨_, walk_eq_some hdepth (Nat.zero_le _) (by omega),
    nodup_flatMap_visited F.roots_nodup hdepth, fun y => ?_⟩
  rw [List.mem_flatMap]
  constructor
  · rintro ⟨root, hroot, hy⟩
    obtain ⟨k, -, hbelow⟩ := mem_visited.mp hy
    exact ⟨k, atDepth_iff_below.mpr ⟨root, hroot, hbelow⟩⟩
  · rintro ⟨k, hk⟩
    obtain ⟨root, hroot, hbelow⟩ := atDepth_iff_below.mp hk
    have hlt := atDepth_lt hk
    exact ⟨root, hroot, mem_visited.mpr ⟨k, by omega, hbelow⟩⟩

end Forest

end Framework
