import OrdersBackend.Market.Registrations

/-!
# Logging in

`login` asks Django for the active user with a name and a password, and answers with tokens and
the data of the user.  A password is encoded once, by the registration, and no endpoint writes
it again; a user that another endpoint creates has none.

The data hold the urls of the pictures of the user, which `UserSerializer` builds with the
request of its context.  `login` gives it no context, so that a user with a picture is not
logged in but the view raises.  `login_iff` and `login_raises_iff` say for every run of
requests whom it answers and for whom it raises.

`check` and `encode` are Django's `check_password` and `make_password`.
-/

namespace OrdersBackend

open Framework Tx Market

/-! ## The data of a user -/

/-- What `UserSerializer` shows of a user. -/
structure UserAnswer where
  pk : ℕ
  user : User
  acceptsOrders : Bool
  isActive : Bool
  avatarUrl : Option String
  avatarSmallUrl : Option String
  avatarMediumUrl : Option String
  avatarLargeUrl : Option String
  deriving DecidableEq, Repr

/-- A file column of the user has a file. -/
def Account.HasPicture (row : Account) : Prop :=
  row.avatar.isSome ∨ row.avatarSmall.isSome ∨ row.avatarMedium.isSome ∨ row.avatarLarge.isSome

instance (row : Account) : Decidable row.HasPicture := inferInstanceAs (Decidable (_ ∨ _))

namespace UserSerializer

section

-- the absolute url of a stored file, by the request of the context if there is one
variable (request : Option (String → String))

/-- `self.context['request'].build_absolute_uri(file.url)`. -/
def absoluteUrl (name : String) : Except PyErr (Option String) :=
  match request with
  | some buildAbsoluteUri => .ok (some (buildAbsoluteUri name))
  | none => .error .keyError

def getAvatarUrl (row : Account) : Except PyErr (Option String) :=
  match row.avatar with
  | some name => absoluteUrl request name
  | none => .ok none

/-- What the methods of the three thumbnails have in common: without one the avatar is shown. -/
def thumbnailUrl (thumbnail : Option String) (row : Account) : Except PyErr (Option String) :=
  match thumbnail with
  | some name => absoluteUrl request name
  | none => getAvatarUrl request row

def getAvatarSmallUrl (row : Account) : Except PyErr (Option String) :=
  thumbnailUrl request row.avatarSmall row

def getAvatarMediumUrl (row : Account) : Except PyErr (Option String) :=
  thumbnailUrl request row.avatarMedium row

def getAvatarLargeUrl (row : Account) : Except PyErr (Option String) :=
  thumbnailUrl request row.avatarLarge row

/-- `UserSerializer(user, context=...).data`. -/
def data (pk : ℕ) (row : Account) : Except PyErr UserAnswer := do
  let avatarUrl ← getAvatarUrl request row
  let avatarSmallUrl ← getAvatarSmallUrl request row
  let avatarMediumUrl ← getAvatarMediumUrl request row
  let avatarLargeUrl ← getAvatarLargeUrl request row
  return { pk, user := row.toUser, acceptsOrders := row.acceptsOrders, isActive := row.isActive,
           avatarUrl, avatarSmallUrl, avatarMediumUrl, avatarLargeUrl }

end

/-- With a request there are always data. -/
lemma exists_data (buildAbsoluteUri : String → String) (pk : ℕ) (row : Account) :
    ∃ answer, data (some buildAbsoluteUri) pk row = .ok answer := by
  have havatar : ∃ url, getAvatarUrl (some buildAbsoluteUri) row = .ok url := by
    unfold getAvatarUrl
    rcases row.avatar with _ | name <;> exact ⟨_, rfl⟩
  have hthumbnail : ∀ thumbnail, ∃ url,
      thumbnailUrl (some buildAbsoluteUri) thumbnail row = .ok url := by
    rintro (_ | name)
    · exact havatar
    · exact ⟨_, rfl⟩
  obtain ⟨url, hurl⟩ := havatar
  obtain ⟨small, hsmall⟩ := hthumbnail row.avatarSmall
  obtain ⟨medium, hmedium⟩ := hthumbnail row.avatarMedium
  obtain ⟨large, hlarge⟩ := hthumbnail row.avatarLarge
  unfold data getAvatarSmallUrl getAvatarMediumUrl getAvatarLargeUrl
  rw [hurl, hsmall, hmedium, hlarge]
  exact ⟨_, rfl⟩

/-- Without a request there are data of the users without a picture. -/
lemma data_of_picture {row : Account} (h : row.HasPicture) (pk : ℕ) :
    data none pk row = .error .keyError := by
  unfold data getAvatarSmallUrl getAvatarMediumUrl getAvatarLargeUrl thumbnailUrl getAvatarUrl
  unfold Account.HasPicture at h
  rcases havatar : row.avatar with _ | name
  · rcases hsmall : row.avatarSmall with _ | name
    · rcases hmedium : row.avatarMedium with _ | name
      · rcases hlarge : row.avatarLarge with _ | name
        · simp [havatar, hsmall, hmedium, hlarge] at h
        · rfl
      · rfl
    · rfl
  · rfl

lemma data_of_no_picture {row : Account} (h : ¬ row.HasPicture) (pk : ℕ) :
    data none pk row = .ok ⟨pk, row.toUser, row.acceptsOrders, row.isActive,
      none, none, none, none⟩ := by
  unfold Account.HasPicture at h
  push Not at h
  simp only [Option.isSome_iff_ne_none, ne_eq, not_not] at h
  obtain ⟨havatar, hsmall, hmedium, hlarge⟩ := h
  unfold data getAvatarSmallUrl getAvatarMediumUrl getAvatarLargeUrl thumbnailUrl getAvatarUrl
  rw [havatar, hsmall, hmedium, hlarge]
  rfl

end UserSerializer

/-! ## The view -/

/-- The tables, and the column `password` of the users who have one. -/
structure MembersDb where
  market : MarketDb
  passwords : ℕ → Option String

/-- The tokens are those of the user whose data are shown. -/
inductive LoginAnswer
  | loggedIn (data : UserAnswer)
  | error (status : ℕ) (text : String)
  deriving DecidableEq, Repr

namespace UserViewSet

section

variable (check : String → String → Bool)

/-- `authenticate` of the `ModelBackend`; the other backends want a provider. -/
def authenticate (db : MembersDb) (username password : String) : Option (ℕ × Account) :=
  match db.market.users.rows.find? fun r => r.2.username = username with
  | none => none
  | some (pk, row) =>
    if (db.passwords pk).any (check password) && row.isActive then some (pk, row) else none

def login (db : MembersDb) (username password : Option String) : Except PyErr LoginAnswer :=
  let username := username.getD ""
  let password := password.getD ""
  if username = "" ∨ password = "" then
    .ok (.error 400 "Username and password are required")
  else
    match authenticate check db username password with
    | none => .ok (.error 401 "Invalid credentials")
    | some (pk, row) =>
      if !row.isActive then .ok (.error 403 "User account is disabled")
      else do
        let data ← UserSerializer.data none pk row
        return .loggedIn data

end

/-- `me`, for the user of a token. -/
def me (buildAbsoluteUri : String → String) (user : ℕ) (account : Account) :
    Except PyErr UserAnswer :=
  UserSerializer.data (some buildAbsoluteUri) user account

/-- `me` has a request and never raises. -/
theorem exists_me (buildAbsoluteUri : String → String) (user : ℕ) (account : Account) :
    ∃ answer, me buildAbsoluteUri user account = .ok answer :=
  UserSerializer.exists_data buildAbsoluteUri user account

end UserViewSet

/-! ## Answers in one state -/

/-- The credentials are those of this user: his name, and a password that passes the check. -/
structure Credentials (check : String → String → Bool) (db : MembersDb) (username password : String)
    (pk : ℕ) (row : Account) : Prop where
  name_ne : username ≠ ""
  password_ne : password ≠ ""
  lookup : db.market.users.lookup pk = some row
  name : row.username = username
  active : row.isActive = true
  checked : ∃ encoded, db.passwords pk = some encoded ∧ check password encoded = true

namespace UserViewSet

variable {check : String → String → Bool} {db : MembersDb} {username password : String} {pk : ℕ}
  {row : Account}

/-- The user with a name is the one that `get_by_natural_key` finds. -/
lemma find_username_iff :
    db.market.users.rows.find? (fun r => r.2.username = username) = some (pk, row) ↔
      db.market.users.lookup pk = some row ∧ row.username = username := by
  constructor
  · intro h
    have hname := List.find?_some h
    exact ⟨Table.mem_rows_iff.mp (List.mem_of_find?_eq_some h), of_decide_eq_true hname⟩
  · rintro ⟨hlookup, rfl⟩
    have hmem := Table.mem_rows_iff.mpr hlookup
    rcases hfind : db.market.users.rows.find? (fun r => r.2.username = row.username) with
      _ | ⟨pk', row'⟩
    · have hnone := List.find?_eq_none.mp hfind _ hmem
      simp at hnone
    · have hname := List.find?_some hfind
      have hlookup' := Table.mem_rows_iff.mp (List.mem_of_find?_eq_some hfind)
      obtain rfl := db.market.usernames pk' pk row' row hlookup' hlookup rfl
        (congrArg some (of_decide_eq_true hname))
      obtain rfl := Option.some.inj (hlookup.symm.trans hlookup')
      exact hfind

/-- `authenticate` finds the user of the credentials. -/
lemma authenticate_iff (hname : username ≠ "") (hpassword : password ≠ "") :
    authenticate check db username password = some (pk, row) ↔
      Credentials check db username password pk row := by
  unfold authenticate
  constructor
  · intro h
    rcases hfind : db.market.users.rows.find? (fun r => r.2.username = username) with
      _ | ⟨pk', row'⟩
    · rw [hfind] at h
      cases h
    · rw [hfind] at h
      simp only [Option.ite_none_right_eq_some, Option.some.injEq, Prod.mk.injEq, Bool.and_eq_true,
        Option.any_eq_true] at h
      obtain ⟨⟨hchecked, hactive⟩, rfl, rfl⟩ := h
      obtain ⟨hlookup, hname'⟩ := find_username_iff.mp hfind
      exact ⟨hname, hpassword, hlookup, hname', hactive, hchecked⟩
  · intro h
    rw [find_username_iff.mpr ⟨h.lookup, h.name⟩]
    have hchecked := (Option.any_eq_true _ _).mpr h.checked
    simp only [hchecked, h.active, Bool.and_self, if_true]

lemma active_of_authenticate (h : authenticate check db username password = some (pk, row)) :
    row.isActive = true := by
  unfold authenticate at h
  rcases hfind : db.market.users.rows.find? (fun r => r.2.username = username) with
    _ | ⟨pk', row'⟩ <;> rw [hfind] at h
  · cases h
  · simp only [Option.ite_none_right_eq_some, Option.some.injEq, Prod.mk.injEq,
      Bool.and_eq_true] at h
    obtain ⟨⟨-, hactive⟩, -, rfl⟩ := h
    exact hactive

/-- Nobody is told that his account is disabled: a user who is not active is not found. -/
theorem login_ne_disabled (username password : Option String) :
    login check db username password ≠ .ok (.error 403 "User account is disabled") := by
  unfold login
  dsimp only
  by_cases hmissing : username.getD "" = "" ∨ password.getD "" = ""
  · rw [if_pos hmissing]
    simp
  · rw [if_neg hmissing]
    rcases hauthenticate : authenticate check db (username.getD "") (password.getD "") with
      _ | ⟨pk, row⟩
    · simp
    · dsimp only
      rw [active_of_authenticate hauthenticate]
      rcases UserSerializer.data none pk row with e | answer <;>
        · intro hlogin
          cases hlogin

/-- With the credentials of a user the view shows his data. -/
lemma login_of_credentials (h : Credentials check db username password pk row) :
    login check db (some username) (some password) =
      (UserSerializer.data none pk row).map LoginAnswer.loggedIn := by
  have hgiven : ¬ (username = "" ∨ password = "") := not_or.mpr ⟨h.name_ne, h.password_ne⟩
  unfold login
  simp only [Option.getD_some, if_neg hgiven, (authenticate_iff h.name_ne h.password_ne).mpr h,
    h.active, Bool.not_true, Bool.false_eq_true, if_false]
  rcases UserSerializer.data none pk row with e | answer <;> rfl

/-- Without the credentials of a user there is an answer `400` or `401`. -/
lemma login_of_no_credentials (h : ∀ pk row, ¬ Credentials check db username password pk row) :
    ∃ status text, login check db (some username) (some password) = .ok (.error status text) ∧
      (status = 400 ∨ status = 401) := by
  unfold login
  dsimp only [Option.getD_some]
  by_cases hmissing : username = "" ∨ password = ""
  · rw [if_pos hmissing]
    exact ⟨_, _, rfl, .inl rfl⟩
  · rw [if_neg hmissing]
    obtain ⟨hname, hpassword⟩ := not_or.mp hmissing
    rcases hauthenticate : authenticate check db username password with _ | ⟨pk, row⟩
    · exact ⟨_, _, rfl, .inr rfl⟩
    · exact absurd ((authenticate_iff hname hpassword).mp hauthenticate) (h pk row)

end UserViewSet

/-! ## Runs -/

/-- A request of a visitor or of a user, with what it draws and reads off the clock. -/
inductive MemberEvent
  | register (request : UserViewSet.RegisterRequest) (salt : String) (now : ℕ)
  | createUser (user : ℕ) (body : Option NewUser)
  | createProduct (user : ℕ) (body : Option NewProduct) (now : ℕ)
  | send (user : ℕ) (request : MarketRequest)

namespace MemberEvent

variable (normalizeUsername normalizeEmail : String → String) (encode : String → String → String)

/-- The users, suppliers and products after a request. -/
def execMarket (event : MemberEvent) (db : MarketDb) : MarketDb :=
  match event with
  | register request _ now =>
    (Market.register normalizeUsername normalizeEmail request.code₁ request.code₂ request.body now
      db).2
  | createUser user body => (asUser user (fun _ => UserViewSet.createUser body) db).2
  | createProduct user body now => (asUser user (fun _ => ProductViewSet.create body now) db).2
  | send user request => Market.exec user request db

/-- The passwords after it: `create_user` stores that of a new user with his row. -/
def execPasswords (event : MemberEvent) (db : MembersDb) : ℕ → Option String :=
  match event with
  | register request salt _ =>
    if (execMarket normalizeUsername normalizeEmail event db.market).users.nextId =
        db.market.users.nextId then db.passwords
    else Function.update db.passwords db.market.users.nextId
      (some (encode salt request.body.password))
  | createUser _ _ | createProduct _ _ _ | send _ _ => db.passwords

def exec (event : MemberEvent) (db : MembersDb) : MembersDb where
  market := execMarket normalizeUsername normalizeEmail event db.market
  passwords := execPasswords normalizeUsername normalizeEmail encode event db

variable {normalizeUsername normalizeEmail encode}

/-- No request takes an id back. -/
lemma nextId_execMarket (event : MemberEvent) (db : MarketDb) :
    db.users.nextId ≤ (execMarket normalizeUsername normalizeEmail event db).users.nextId := by
  rcases event with ⟨request, salt, now⟩ | ⟨user, body⟩ | ⟨user, body, now⟩ | ⟨user, request⟩
  · have husers := users_register normalizeUsername normalizeEmail request.code₁ request.code₂
      request.body now db
    rcases husers with husers | ⟨user, husers⟩ <;> rw [execMarket, husers]
    exact Nat.le_succ _
  · refine (asUser_iff (P := fun db' => db.users.nextId ≤ db'.users.nextId) le_rfl).mpr
      fun _ _ => ?_
    exact (UserViewSet.createUser_iff (P := fun db' => db.users.nextId ≤ db'.users.nextId) le_rfl
      body).mpr fun _ _ _ _ => Nat.le_succ _
  · refine (asUser_iff (P := fun db' => db.users.nextId ≤ db'.users.nextId) le_rfl).mpr
      fun _ _ => ?_
    exact (create_iff (P := fun db' => db.users.nextId ≤ db'.users.nextId) le_rfl body now).mpr
      fun _ _ _ _ => le_rfl
  · exact exec_of_writes (P := fun db' => db.users.nextId ≤ db'.users.nextId) le_rfl
      (fun _ _ _ => le_rfl) (fun _ _ _ => le_rfl) (fun _ _ _ => le_rfl) (fun _ _ => le_rfl)
      (fun _ _ => le_rfl) (fun _ => le_rfl) user request

end MemberEvent

section

open MemberEvent

variable (normalizeUsername normalizeEmail : String → String) (encode : String → String → String)

/-- The state that a run leaves, from tables whose users have no passwords. -/
def members (db : MarketDb) (events : List MemberEvent) : MembersDb :=
  run (MemberEvent.exec normalizeUsername normalizeEmail encode) ⟨db, fun _ => none⟩ events

/-- A registration of the run has stored the user with this password. -/
def Registered (db : MarketDb) (events : List MemberEvent) (pk : ℕ) (salt password : String) :
    Prop :=
  ∃ earlier request now later, events = earlier ++ .register request salt now :: later ∧
    request.body.password = password ∧
    (members normalizeUsername normalizeEmail encode db earlier).market.users.nextId = pk ∧
    (members normalizeUsername normalizeEmail encode db
      (earlier ++ [.register request salt now])).market.users.nextId ≠ pk

variable {normalizeUsername normalizeEmail encode} {db : MarketDb}

lemma members_concat (events : List MemberEvent) (event : MemberEvent) :
    members normalizeUsername normalizeEmail encode db (events ++ [event]) =
      MemberEvent.exec normalizeUsername normalizeEmail encode event
        (members normalizeUsername normalizeEmail encode db events) := by
  unfold members
  rw [run_append]
  rfl

/-- Registrations of a longer run. -/
lemma registered_concat_iff {events : List MemberEvent} {event : MemberEvent} {pk : ℕ}
    {salt password : String} :
    Registered normalizeUsername normalizeEmail encode db (events ++ [event]) pk salt password ↔
      Registered normalizeUsername normalizeEmail encode db events pk salt password ∨
        ∃ request now, event = .register request salt now ∧ request.body.password = password ∧
          (members normalizeUsername normalizeEmail encode db events).market.users.nextId = pk ∧
          (members normalizeUsername normalizeEmail encode db
            (events ++ [event])).market.users.nextId ≠ pk := by
  constructor
  · rintro ⟨earlier, request, now, later, hsplit, hpassword, hbefore, hafter⟩
    rcases List.eq_nil_or_concat later with rfl | ⟨later, final, rfl⟩
    · obtain ⟨rfl, hevent⟩ := List.append_inj' hsplit rfl
      obtain rfl := List.singleton_inj.mp hevent
      exact .inr ⟨request, now, rfl, hpassword, hbefore, hafter⟩
    · rw [List.concat_eq_append, ← List.cons_append, ← List.append_assoc] at hsplit
      obtain ⟨rfl, -⟩ := List.append_inj' hsplit rfl
      exact .inl ⟨earlier, request, now, later, rfl, hpassword, hbefore, hafter⟩
  · rintro (⟨earlier, request, now, later, rfl, hpassword, hbefore, hafter⟩ |
      ⟨request, now, rfl, hpassword, hbefore, hafter⟩)
    · refine ⟨earlier, request, now, later ++ [event], ?_, hpassword, hbefore, hafter⟩
      rw [List.append_assoc, List.cons_append]
    · exact ⟨events, request, now, [], rfl, hpassword, hbefore, hafter⟩

/-- The ids of registered users have been given out. -/
lemma lt_of_registered {events : List MemberEvent} {pk : ℕ} {salt password : String}
    (h : Registered normalizeUsername normalizeEmail encode db events pk salt password) :
    pk < (members normalizeUsername normalizeEmail encode db events).market.users.nextId := by
  induction events using List.reverseRecOn with
  | nil =>
      obtain ⟨earlier, request, now, later, hsplit, -⟩ := h
      simp at hsplit
  | append_singleton events event ih =>
      have hgrow : (members normalizeUsername normalizeEmail encode db events).market.users.nextId ≤
          (MemberEvent.exec normalizeUsername normalizeEmail encode event
            (members normalizeUsername normalizeEmail encode db events)).market.users.nextId :=
        nextId_execMarket event _
      rw [members_concat]
      rcases registered_concat_iff.mp h with hevents | ⟨request, now, -, -, hbefore, hafter⟩
      · exact lt_of_lt_of_le (ih hevents) hgrow
      · rw [members_concat] at hafter
        rw [← hbefore] at hafter ⊢
        exact lt_of_le_of_ne hgrow (Ne.symm hafter)

lemma passwords_of_stored {s : MembersDb} {request : UserViewSet.RegisterRequest} {salt : String}
    {now : ℕ} (h : (MemberEvent.exec normalizeUsername normalizeEmail encode
      (.register request salt now) s).market.users.nextId ≠ s.market.users.nextId) :
    (MemberEvent.exec normalizeUsername normalizeEmail encode
      (.register request salt now) s).passwords =
      Function.update s.passwords s.market.users.nextId
        (some (encode salt request.body.password)) :=
  if_neg h

lemma passwords_of_not_stored {s : MembersDb} {request : UserViewSet.RegisterRequest}
    {salt : String} {now : ℕ} (h : (MemberEvent.exec normalizeUsername normalizeEmail encode
      (.register request salt now) s).market.users.nextId = s.market.users.nextId) :
    (MemberEvent.exec normalizeUsername normalizeEmail encode
      (.register request salt now) s).passwords = s.passwords :=
  if_pos h

/-- A password stays with a user whose id has been given out. -/
lemma passwords_exec_of_lt {s : MembersDb} {pk : ℕ} (hpk : pk < s.market.users.nextId)
    (event : MemberEvent) :
    (MemberEvent.exec normalizeUsername normalizeEmail encode event s).passwords pk =
      s.passwords pk := by
  rcases event with ⟨request, salt, now⟩ | _ | _ | _
  · by_cases hstored : (MemberEvent.exec normalizeUsername normalizeEmail encode
        (.register request salt now) s).market.users.nextId = s.market.users.nextId
    · rw [passwords_of_not_stored hstored]
    · rw [passwords_of_stored hstored, Function.update_of_ne hpk.ne]
  · rfl
  · rfl
  · rfl

/-- **Passwords are those of the registrations.** -/
lemma passwords_members (events : List MemberEvent) (pk : ℕ) (encoded : String) :
    (members normalizeUsername normalizeEmail encode db events).passwords pk = some encoded ↔
      ∃ salt password, encode salt password = encoded ∧
        Registered normalizeUsername normalizeEmail encode db events pk salt password := by
  induction events using List.reverseRecOn with
  | nil =>
      constructor
      · intro h
        cases h
      · rintro ⟨salt, password, -, earlier, request, now, later, hsplit, -⟩
        simp at hsplit
  | append_singleton events event ih =>
      set s := members normalizeUsername normalizeEmail encode db events with hs
      simp only [registered_concat_iff, and_or_left, exists_or, ← ih, members_concat, ← hs]
      constructor
      · intro h
        -- only a registration that stores its user writes a password
        rcases event with ⟨request, salt, now⟩ | _ | _ | _
        · by_cases hstored : (MemberEvent.exec normalizeUsername normalizeEmail encode
              (.register request salt now) s).market.users.nextId = s.market.users.nextId
          · rw [passwords_of_not_stored hstored] at h
            exact .inl h
          · rw [passwords_of_stored hstored] at h
            rcases eq_or_ne pk s.market.users.nextId with rfl | hne
            · rw [Function.update_self] at h
              exact .inr ⟨salt, request.body.password, Option.some.inj h, request, now, rfl, rfl,
                rfl, hstored⟩
            · rw [Function.update_of_ne hne] at h
              exact .inl h
        · exact .inl h
        · exact .inl h
        · exact .inl h
      · rintro (h | ⟨salt, password, rfl, request, now, rfl, rfl, rfl, hstored⟩)
        · obtain ⟨salt, password, -, hregistered⟩ := ih.mp h
          rw [passwords_exec_of_lt (lt_of_registered hregistered)]
          exact h
        · rw [passwords_of_stored hstored, Function.update_self]

variable (normalizeUsername normalizeEmail encode) (check : String → String → Bool)

/-- What the run has to say of the credentials: the user has got the name now, is active now,
and has registered with a password that passes the check. -/
structure Knows (db : MarketDb) (events : List MemberEvent) (username password : String) (pk : ℕ)
    (row : Account) : Prop where
  name_ne : username ≠ ""
  password_ne : password ≠ ""
  lookup : (members normalizeUsername normalizeEmail encode db events).market.users.lookup pk =
    some row
  name : row.username = username
  active : row.isActive = true
  registered : ∃ salt chosen,
    Registered normalizeUsername normalizeEmail encode db events pk salt chosen ∧
      check password (encode salt chosen) = true

lemma knows_iff {events : List MemberEvent} {username password : String} {pk : ℕ}
    {row : Account} :
    Knows normalizeUsername normalizeEmail encode check db events username password pk row ↔
      Credentials check (members normalizeUsername normalizeEmail encode db events) username
        password pk row := by
  constructor
  · intro h
    obtain ⟨salt, chosen, hregistered, hchecked⟩ := h.registered
    have hpassword := (passwords_members events pk _).mpr ⟨salt, chosen, rfl, hregistered⟩
    exact ⟨h.name_ne, h.password_ne, h.lookup, h.name, h.active, _, hpassword, hchecked⟩
  · intro h
    obtain ⟨encoded, hpassword, hchecked⟩ := h.checked
    obtain ⟨salt, chosen, rfl, hregistered⟩ := (passwords_members events pk _).mp hpassword
    exact ⟨h.name_ne, h.password_ne, h.lookup, h.name, h.active, salt, chosen, hregistered,
      hchecked⟩

/-- **Who is logged in.**  After every run of requests the view logs a user in exactly when the
name is his, he is active, the password passes the check against the one he has registered
with, and he has no picture. -/
theorem login_iff (db : MarketDb) (events : List MemberEvent) (username password : String)
    (pk : ℕ) :
    (∃ data, UserViewSet.login check (members normalizeUsername normalizeEmail encode db events)
        (some username) (some password) = .ok (.loggedIn data) ∧ data.pk = pk) ↔
      ∃ row, Knows normalizeUsername normalizeEmail encode check db events username password pk
        row ∧ ¬ row.HasPicture := by
  simp only [knows_iff]
  constructor
  · rintro ⟨data, hlogin, rfl⟩
    -- the serializer raises for a user with a picture
    by_cases hcredentials : ∃ pk row, Credentials check
        (members normalizeUsername normalizeEmail encode db events) username password pk row
    · obtain ⟨pk, row, hcredentials⟩ := hcredentials
      rw [UserViewSet.login_of_credentials hcredentials] at hlogin
      by_cases hpicture : row.HasPicture
      · rw [UserSerializer.data_of_picture hpicture] at hlogin
        cases hlogin
      · rw [UserSerializer.data_of_no_picture hpicture] at hlogin
        obtain rfl := LoginAnswer.loggedIn.inj (Except.ok.inj hlogin)
        exact ⟨row, hcredentials, hpicture⟩
    · push Not at hcredentials
      obtain ⟨status, text, hanswer, -⟩ := UserViewSet.login_of_no_credentials hcredentials
      rw [hanswer] at hlogin
      cases hlogin
  · rintro ⟨row, hcredentials, hpicture⟩
    rw [UserViewSet.login_of_credentials hcredentials,
      UserSerializer.data_of_no_picture hpicture]
    exact ⟨_, rfl, rfl⟩

/-- **For whom the login raises.**  The view raises exactly when the credentials are those of
an active user who has a picture. -/
theorem login_raises_iff (db : MarketDb) (events : List MemberEvent)
    (username password : String) (e : PyErr) :
    UserViewSet.login check (members normalizeUsername normalizeEmail encode db events)
        (some username) (some password) = .error e ↔
      e = .keyError ∧ ∃ pk row, Knows normalizeUsername normalizeEmail encode check db events
        username password pk row ∧ row.HasPicture := by
  simp only [knows_iff]
  constructor
  · intro hlogin
    by_cases hcredentials : ∃ pk row, Credentials check
        (members normalizeUsername normalizeEmail encode db events) username password pk row
    · obtain ⟨pk, row, hcredentials⟩ := hcredentials
      rw [UserViewSet.login_of_credentials hcredentials] at hlogin
      by_cases hpicture : row.HasPicture
      · rw [UserSerializer.data_of_picture hpicture] at hlogin
        cases hlogin
        exact ⟨rfl, pk, row, hcredentials, hpicture⟩
      · rw [UserSerializer.data_of_no_picture hpicture] at hlogin
        cases hlogin
    · push Not at hcredentials
      obtain ⟨status, text, hanswer, -⟩ := UserViewSet.login_of_no_credentials hcredentials
      rw [hanswer] at hlogin
      cases hlogin
  · rintro ⟨rfl, pk, row, hcredentials, hpicture⟩
    rw [UserViewSet.login_of_credentials hcredentials, UserSerializer.data_of_picture hpicture]
    rfl

end

end OrdersBackend
