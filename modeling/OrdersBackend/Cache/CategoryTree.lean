import OrdersBackend.Cache.Readers
import OrdersBackend.Framework.Forest

/-!
# The tree of the categories

`CategorySerializer` writes a category with its children, each of which it writes in the same
way; it neither counts how deep it is nor remembers what it has written, and a category can be
its own ancestor.  The list of the categories starts from those without a parent.

A run that does not return is one that no number of nested calls is enough for.  On every table
the run returns, with every category whose chain of parents ends, once (`tree_complete`): the
categories on a circle, and those below them, are on no path from a root.
-/

namespace OrdersBackend

open Framework

/-! ## The serializer -/

/-- `CategorySerializer(rows, many=True).data`, with `get_children`; nothing when the calls are
nested deeper than the bound. -/
def CategorySerializer.data (db : ShopDb) : ℕ → List (ℕ × CategoryRow) → Option (List CategoryData)
  | 0, _ => none
  | calls + 1, rows => rows.mapM fun r =>
      (data db calls (CategoryViewSet.childrenOf db r.1)).map (.mk r.1 r.2)

mutual

/-- The ids in a serialised category, its own and those in `children`. -/
def CategoryData.emitted : CategoryData → List ℕ
  | .mk id _ children => id :: CategoryData.emittedAll children

/-- The ids in a list of serialised categories. -/
def CategoryData.emittedAll : List CategoryData → List ℕ
  | [] => []
  | category :: rest => category.emitted ++ CategoryData.emittedAll rest

end

/-- The chain of parents of a category ends at a category without parent. -/
inductive ShopDb.ChainEnds (db : ShopDb) : ℕ → Prop
  | root {id row} (hrow : db.categories.lookup id = some row) (hparent : row.parent = none) :
      ChainEnds db id
  | child {id row parent} (hrow : db.categories.lookup id = some row)
      (hparent : row.parent = some parent) (hends : ChainEnds db parent) : ChainEnds db id

namespace CategorySerializer

variable {db : ShopDb} {calls : ℕ} {rows : List (ℕ × CategoryRow)} {data : List CategoryData}

lemma mapM_of_imp {α β : Type} {f g : α → Option β} {xs : List α} {ys : List β}
    (h : ∀ x y, f x = some y → g x = some y) (hf : xs.mapM f = some ys) :
    xs.mapM g = some ys := by
  induction xs generalizing ys with
  | nil => exact hf
  | cons x xs ih =>
      rw [List.mapM_cons] at hf ⊢
      obtain ⟨y, hy, hf⟩ := Option.bind_eq_some_iff.mp hf
      obtain ⟨ys', hys, hf⟩ := Option.bind_eq_some_iff.mp hf
      rw [h x y hy, ih hys]
      exact hf

lemma eq_map_of_mapM {α β : Type} {f : α → Option β} {g : α → β} {xs : List α} {ys : List β}
    (h : ∀ x y, f x = some y → y = g x) (hf : xs.mapM f = some ys) : ys = xs.map g := by
  induction xs generalizing ys with
  | nil => exact (Option.some.inj hf).symm
  | cons x xs ih =>
      rw [List.mapM_cons] at hf
      obtain ⟨y, hy, hf⟩ := Option.bind_eq_some_iff.mp hf
      obtain ⟨ys', hys, hf⟩ := Option.bind_eq_some_iff.mp hf
      rw [← Option.some.inj hf, List.map_cons, ← h x y hy, ← ih hys]

/-- A run that returns returns the same when it may go deeper. -/
lemma data_succ (h : CategorySerializer.data db calls rows = some data) :
    CategorySerializer.data db (calls + 1) rows = some data := by
  induction calls generalizing rows data with
  | zero => cases h
  | succ calls ih =>
      refine mapM_of_imp (fun r category hr => ?_) h
      obtain ⟨children, hchildren, rfl⟩ := Option.map_eq_some_iff.mp hr
      rw [ih hchildren]
      rfl

lemma data_of_le {calls' : ℕ} (hle : calls ≤ calls')
    (h : CategorySerializer.data db calls rows = some data) :
    CategorySerializer.data db calls' rows = some data := by
  induction hle with
  | refl => exact h
  | step _ ih => exact data_succ ih

/-- What the cached list keeps is the run, cut off at a depth. -/
lemma serialize_eq (h : CategorySerializer.data db (calls + 1) rows = some data) :
    CategoryViewSet.serialize db calls rows = data := by
  induction calls generalizing rows data with
  | zero =>
      -- one call is enough for the empty list only
      rcases rows with _ | ⟨r, rows⟩
      · exact Option.some.inj h
      · rw [CategorySerializer.data, List.mapM_cons] at h
        cases h
  | succ calls ih =>
      refine (eq_map_of_mapM (fun r category hr => ?_) h).symm
      obtain ⟨children, hchildren, rfl⟩ := Option.map_eq_some_iff.mp hr
      rw [ih hchildren]

/-! ## The categories as a forest -/

lemma mem_childrenOf {r : ℕ × CategoryRow} {id : ℕ} : r ∈ CategoryViewSet.childrenOf db id ↔
    db.categories.lookup r.1 = some r.2 ∧ r.2.parent = some id := by
  rw [CategoryViewSet.childrenOf, CategoryViewSet.byName, List.mem_insertionSort, List.mem_filter,
    decide_eq_true_eq, ← Table.mem_rows_iff]

lemma mem_roots {r : ℕ × CategoryRow} : r ∈ CategoryViewSet.roots db ↔
    db.categories.lookup r.1 = some r.2 ∧ r.2.parent = none := by
  rw [CategoryViewSet.roots, CategoryViewSet.byName, List.mem_insertionSort, List.mem_filter,
    Option.isNone_iff_eq_none, ← Table.mem_rows_iff]

lemma nodup_ids_byName (p : ℕ × CategoryRow → Bool) :
    ((CategoryViewSet.byName (db.categories.rows.filter p)).map Prod.fst).Nodup := by
  have hperm := (List.perm_insertionSort (fun r r' : ℕ × CategoryRow => r.2.name ≤ r'.2.name)
    (db.categories.rows.filter p)).map Prod.fst
  refine hperm.nodup_iff.mpr ?_
  exact db.categories.nodup.sublist (List.filter_sublist.map Prod.fst)

lemma mem_ids_of_lookup {id : ℕ} {row : CategoryRow} (h : db.categories.lookup id = some row) :
    id ∈ db.categories.rows.map Prod.fst :=
  List.mem_map.mpr ⟨(id, row), Table.mem_rows_iff.mpr h, rfl⟩

lemma mem_rootIds {id : ℕ} : id ∈ (CategoryViewSet.roots db).map Prod.fst ↔
    ∃ row, db.categories.lookup id = some row ∧ row.parent = none := by
  rw [List.mem_map]
  constructor
  · rintro ⟨r, hr, rfl⟩
    exact ⟨r.2, mem_roots.mp hr⟩
  · rintro ⟨row, hrow⟩
    exact ⟨(id, row), mem_roots.mpr hrow, rfl⟩

lemma mem_childIds {id parent : ℕ} :
    id ∈ (CategoryViewSet.childrenOf db parent).map Prod.fst ↔
      ∃ row, db.categories.lookup id = some row ∧ row.parent = some parent := by
  rw [List.mem_map]
  constructor
  · rintro ⟨r, hr, rfl⟩
    exact ⟨r.2, mem_childrenOf.mp hr⟩
  · rintro ⟨row, hrow⟩
    exact ⟨(id, row), mem_childrenOf.mpr hrow, rfl⟩

/-- Each category refers to one parent at most. -/
def forest (db : ShopDb) : Forest ℕ where
  nodes := db.categories.rows.map Prod.fst
  roots := (CategoryViewSet.roots db).map Prod.fst
  children id := (CategoryViewSet.childrenOf db id).map Prod.fst
  roots_nodup := nodup_ids_byName _
  children_nodup _ := nodup_ids_byName _
  roots_subset _ hid := by
    obtain ⟨row, hrow, -⟩ := mem_rootIds.mp hid
    exact mem_ids_of_lookup hrow
  children_subset _ _ hid := by
    obtain ⟨row, hrow, -⟩ := mem_childIds.mp hid
    exact mem_ids_of_lookup hrow
  one_parent hp hq := by
    obtain ⟨row, hrow, hparent⟩ := mem_childIds.mp hp
    obtain ⟨row', hrow', hparent'⟩ := mem_childIds.mp hq
    obtain rfl : row = row' := Option.some.inj (hrow.symm.trans hrow')
    exact Option.some.inj (hparent.symm.trans hparent')
  root_no_parent hroot hchild := by
    obtain ⟨row, hrow, hparent⟩ := mem_rootIds.mp hroot
    obtain ⟨row', hrow', hparent'⟩ := mem_childIds.mp hchild
    obtain rfl : row = row' := Option.some.inj (hrow.symm.trans hrow')
    exact nomatch hparent.symm.trans hparent'

lemma chainEnds_iff {id : ℕ} : db.ChainEnds id ↔ ∃ depth, (forest db).AtDepth depth id := by
  constructor
  · intro h
    induction h with
    | root hrow hparent => exact ⟨0, mem_rootIds.mpr ⟨_, hrow, hparent⟩⟩
    | child hrow hparent _ ih =>
        obtain ⟨depth, hdepth⟩ := ih
        exact ⟨depth + 1, _, mem_childIds.mpr ⟨_, hrow, hparent⟩, hdepth⟩
  · rintro ⟨depth, hdepth⟩
    induction depth generalizing id with
    | zero =>
        obtain ⟨row, hrow, hparent⟩ := mem_rootIds.mp hdepth
        exact .root hrow hparent
    | succ depth ih =>
        obtain ⟨parent, hchild, hdepth⟩ := hdepth
        obtain ⟨row, hrow, hparent⟩ := mem_childIds.mp hchild
        exact .child hrow hparent (ih hdepth)

/-! ## The run -/

lemma map_emittedAll_mapM {f : ℕ × CategoryRow → Option CategoryData} {g : ℕ → Option (List ℕ)}
    (h : ∀ r, (f r).map CategoryData.emitted = g r.1) (rows : List (ℕ × CategoryRow)) :
    (rows.mapM f).map CategoryData.emittedAll = ((rows.map Prod.fst).mapM g).map List.flatten := by
  induction rows with
  | nil => rfl
  | cons r rows ih =>
      rw [List.map_cons, List.mapM_cons, List.mapM_cons, ← h r]
      rcases f r with _ | category
      · rfl
      · rcases hrows : rows.mapM f with _ | rest
        · rw [hrows] at ih
          rw [Option.map_eq_none_iff.mp ih.symm]
          rfl
        · rw [hrows] at ih
          obtain ⟨ids, hids, hflat⟩ := Option.map_eq_some_iff.mp ih.symm
          rw [hids]
          exact congrArg (fun tail => some (category.emitted ++ tail)) hflat.symm

/-- The ids that the serializer writes are the nodes that the walk visits. -/
lemma map_emittedAll_data (db : ShopDb) (calls : ℕ) (rows : List (ℕ × CategoryRow)) :
    (CategorySerializer.data db calls rows).map CategoryData.emittedAll =
      (forest db).walk calls (rows.map Prod.fst) := by
  induction calls generalizing rows with
  | zero => rfl
  | succ calls ih =>
      refine map_emittedAll_mapM (fun r => ?_) rows
      have hchildren : _ = (forest db).walk calls ((forest db).children r.1) :=
        ih (CategoryViewSet.childrenOf db r.1)
      rw [← hchildren, Option.map_map, Option.map_map]
      rfl

/-- **The tree of the categories** on any table: the serialisation of the categories without
parent returns, and in what it returns every category whose chain of parents ends stands once
and no other one stands.  Python's limit on nested calls is left out, which a chain of some
hundred categories would pass. -/
theorem tree_complete (db : ShopDb) :
    (∀ calls > db.categories.rows.length,
      CategorySerializer.data db calls (CategoryViewSet.roots db) =
        some (CategoryViewSet.serialized db)) ∧
    (CategoryData.emittedAll (CategoryViewSet.serialized db)).Nodup ∧
    ∀ id, id ∈ CategoryData.emittedAll (CategoryViewSet.serialized db) ↔ db.ChainEnds id := by
  have hlength : (forest db).nodes.length < db.categories.rows.length + 1 := by
    rw [forest, List.length_map]
    exact Nat.lt_succ_self _
  obtain ⟨out, hwalk, hnodup, hmem⟩ := (forest db).walk_roots hlength
  have hids := map_emittedAll_data db (db.categories.rows.length + 1) (CategoryViewSet.roots db)
  obtain ⟨data, hdata, rfl⟩ := Option.map_eq_some_iff.mp (hids.trans hwalk)
  obtain rfl : CategoryViewSet.serialized db = data := serialize_eq hdata
  refine ⟨fun calls hcalls => data_of_le hcalls hdata, hnodup, fun id => ?_⟩
  rw [hmem, chainEnds_iff]

end CategorySerializer

end OrdersBackend
