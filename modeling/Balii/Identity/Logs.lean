import Balii.Identity.Service
/-!
# Logs — what a call of the user service has done when it writes, and when it answers

`Allowed` names the calls that can do each operation and what they did before it; `Answered` says what a successful answer
stands for.
-/
namespace Balii.Identity

open Rowdb Rowdb.Atomic List

variable (cfg : Config)

abbrev Log : Type := List (Act (identity cfg))

/-- The act by which a session of the user begins: the row its password is checked against, the row that Google stands for, or the
stored refresh hash. -/
def Begins (call : Call) (id : Uuid) (x : Act (identity cfg)) : Prop :=
  match call with
  | .login email _ => x.op = .findUserByEmail (cfg.normalized email) ∧
      (x.before.accountByEmail (cfg.normalized email)).map Account.id = some id
  | .googleCallback userId => userId = id ∧ x.op = .findUser id
  | .refreshToken userId token => userId = id ∧ x.op = .getRefresh id ∧
      Entry.live x.before.now (x.before.refreshToken id) = some (cfg.hashActionToken token)
  | _ => False

/-- The operation that changes the user's role or password. -/
def Changes (id : Uuid) (op : Op) (s : State) : Prop :=
  match op with
  | .updateRole id' _ => id' = id
  | .saveUser id' _ _ => id' = id
  | .resetPassword token hash date => ∃ s', performReset token hash date s = .ok (id, s')
  | _ => False

/-- What a call has done before the operation. -/
def Allowed (call : Call) (l : Log cfg) (op : Op) (_ : State) : Prop :=
  match op with
  | .pass ms => call = .pass ms
  | .updateRole id roleId => ∃ claims role x y, call = .updateUserRole (.jwt cfg.jwtSecret claims) id role ∧ [x, y] <+ l ∧
      y.op = .findRole role.name ∧ y.before.roles.lookup roleId = some role.name ∧ x.op = .findUser claims.sub ∧
        ¬ (claims.sub = id ∧ x.before.roleOf claims.sub = some "SUPER_ADMIN" ∧ role.name ≠ "SUPER_ADMIN")
  | .saveUser id entity reloaded => ∃ token old new x y user hash, call = .changePassword token old new ∧ [x, y] <+ l ∧
      x.op = .findUser id ∧ y.op = .findUser id ∧ x.before.users.lookup id = some user ∧
      entity = { user with passwordHash := some hash } ∧ reloaded = y.before.users.lookup id
  | .addReset _ row => ∃ x usedAt, [x] <+ l ∧ x.op = .retireResets row.userId usedAt ∧ row.usedAt = none
  | .setRefresh id hash _ => ∃ x y account role, [x, y] <+ l ∧ Begins cfg call id x ∧ y.op = .now ∧
      hash = cfg.hashActionToken (refreshTokenOf cfg account role y.before.now)
  | .setValidAfter _ date ttl => ∃ x, [x] <+ l ∧ x.op = .now ∧ date = x.before.now ∧ ttl = 15 * 60
  | _ => True

/-- The user's sessions have been revoked after the change. -/
def Revoked (id : Uuid) (l : Log cfg) : Prop :=
  ∃ c t d w, [c, t, w] <+ l ∧ [c, d, w] <+ l ∧ Changes id c.op c.before ∧ t.op = .now ∧ d.op = .delRefresh id ∧
    w.op = .setValidAfter id t.before.now (15 * 60)

/-- A reading of a user's row. -/
def Op.findsUser : Op → Bool
  | .findUser _ => true
  | .findUserByEmail _ => true
  | _ => false

/-- What a session's tokens were made from: the act it began with, the role it read, the time, the hash it stored. -/
def Issued (call : Call) (l : Log cfg) (access refresh : Token) : Prop :=
  ∃ x r y z account role hash ttl, [x, y, z] <+ l ∧ (r = x ∨ [x, r] <+ l) ∧ Begins cfg call account.id x ∧
    r.op.findsUser = true ∧ r.before.roleOf account.id = some role ∧ y.op = .now ∧ z.op = .setRefresh account.id hash ttl ∧
    access = accessToken cfg account role y.before.now ∧ refresh = refreshTokenOf cfg account role y.before.now

/-- Why the gateway lets a request pass with its token. -/
def Accepted (token : Token) (l : Log cfg) (identity : IdentityHeaders) : Prop :=
  ∃ claims, token = .jwt cfg.jwtSecret claims ∧ identity = claims.identity ∧ (cfg.failClosed = false ∨
    ∃ x, [x] <+ l ∧ x.op = .getValidAfter claims.sub ∧
      ¬ (0 < (Entry.live x.before.now (x.before.tokensValidAfter claims.sub)).getD 0 ∧
        claims.sessionIssuedAt ≤ (Entry.live x.before.now (x.before.tokensValidAfter claims.sub)).getD 0))

/-- What a successful answer says. -/
def Answered (call : Call) (l : Log cfg) (reply : Reply) : Prop :=
  match call, reply with
  | .login .., .session access refresh _ => Issued cfg call l access refresh
  | .googleCallback _, .redirected refresh => ∃ access, Issued cfg call l access refresh
  | .refreshToken .., .session access refresh _ => Issued cfg call l access refresh
  | .logout token, _ => ∃ secret claims x, token = .jwt secret claims ∧ [x] <+ l ∧ x.op = .delRefresh claims.sub
  | .updateUserRole _ target _, _ => Revoked cfg target l
  | .resetPassword _ _, _ => ∃ id, Revoked cfg id l
  | .changePassword token _ _, _ => ∃ secret claims, token = .jwt secret claims ∧ Revoked cfg claims.sub l
  | .request (.bearer token), .passed (some identity) => Accepted cfg token l identity
  | _, _ => True

section Programs
variable {cfg} {call : Call} {l : Log cfg}

theorem verify_jwt {token : Token} {secret : String} {now : ℕ} {claims : Claims} (h : token.verify secret now = some claims) :
    token = .jwt secret claims := by
  cases token with
  | text s => cases h
  | jwt secret' claims' =>
    simp only [Token.verify, Option.ite_none_right_eq_some, Option.some.injEq] at h
    obtain ⟨⟨rfl, _⟩, rfl⟩ := h
    rfl

theorem sub_snoc {α : Type} {xs l : List α} {y : α} (h : xs <+ l) : xs <+ l ++ [y] := h.trans (sublist_append_left _ _)

theorem sub_last {α : Type} {xs l : List α} {y : α} (h : xs <+ l) : xs ++ [y] <+ l ++ [y] := h.append_right _

/-- A read is always allowed. -/
theorem logs_read {op : Op} {post : Log cfg → op.Res → Prop} (hop : ∀ l s, Allowed cfg call l op s)
    (h : ∀ n b a b', perform op b = .ok (a, b') → post (l ++ [⟨n, op, b⟩]) a) :
    Logs (A := identity cfg) (Allowed cfg call) (act op) post l :=
  logs_trans fun n b a b' hperf => ⟨hop _ _, h n b a b' hperf⟩

theorem logs_authenticated {token : Token} {post : Log cfg → Claims → Prop}
    (h : ∀ x claims, token = .jwt cfg.jwtSecret claims → post (l ++ [x]) claims) :
    Logs (A := identity cfg) (Allowed cfg call) (authenticated cfg token) post l :=
  logs_bind (logs_read (fun _ _ => trivial) fun _ _ _ _ _ => logs_need fun _ hv => h _ _ (verify_jwt hv))

theorem logs_requireVerified {user : User} {message : String} {post : Log cfg → Unit → Prop} (h : post l ()) :
    Logs (A := identity cfg) (Allowed cfg call) (requireVerified cfg user message) post l := by
  unfold requireVerified
  split
  · exact h
  · exact logs_bind (logs_ofExcept fun _ _ => logs_ensure fun _ => h)

theorem logs_loadUserWithRole {id : Uuid} {post : Log cfg → Account → Prop}
    (h : ∀ x account, account.id = id → x.op.findsUser = true → account.role = x.before.roleOf id → post (l ++ [x]) account) :
    Logs (A := identity cfg) (Allowed cfg call) (loadUserWithRole cfg id) post l := by
  refine logs_bind (logs_read (fun _ _ => trivial) fun n b a b' hperf => ?_)
  refine logs_bind (logs_need fun account ha => ?_)
  refine logs_bind (logs_ensure fun _ => logs_bind (logs_requireVerified ?_))
  obtain ⟨rfl, rfl⟩ := Prod.mk.inj (Except.ok.inj hperf)
  obtain ⟨u, _, rfl⟩ := Option.map_eq_some_iff.1 ha
  exact h ⟨n, .findUser id, b⟩ _ rfl rfl rfl

/-- What a session began with, and how far its log has got. -/
theorem logs_login {account : Account} {x r : Act (identity cfg)} (hx : [x] <+ l) (hr : r = x ∨ [x, r] <+ l)
    (hbegins : Begins cfg call account.id x) (hfinds : r.op.findsUser = true)
    (hrole : ∀ role, account.role = some role → r.before.roleOf account.id = some role) :
    Logs (A := identity cfg) (Allowed cfg call) (login cfg account)
      (fun l result => Issued cfg call l result.accessToken result.refreshToken) l := by
  let Hydrated (l' : Log cfg) (hydrated : Account) : Prop := hydrated.id = account.id ∧ [x] <+ l' ∧ ∃ r : Act (identity cfg),
    (r = x ∨ [x, r] <+ l') ∧ r.op.findsUser = true ∧ ∀ role, hydrated.role = some role → r.before.roleOf account.id = some role
  have hhydrated : Logs (A := identity cfg) (Allowed cfg call) (hydrate cfg account) Hydrated l := by
    unfold hydrate
    split
    · exact ⟨rfl, hx, r, hr, hfinds, hrole⟩
    · refine logs_loadUserWithRole fun y hydrated hid hfinds hread => ⟨hid, sub_snoc hx, y, .inr (sub_last hx), hfinds, fun role h => ?_⟩
      rw [← hread, h]
  refine logs_bind (hhydrated.mono ?_)
  rintro l' hydrated ⟨hid, hx', r', hr', hfinds', hrole'⟩
  refine logs_bind (logs_need fun role hrole => ?_)
  refine logs_bind (logs_read (fun _ _ => trivial) fun n b a b' hperf => ?_)
  obtain ⟨rfl, rfl⟩ := Prod.mk.inj (Except.ok.inj hperf)
  rw [← hid] at hbegins hrole'
  refine logs_bind (logs_trans fun n' b' _ _ _ => ⟨⟨x, ⟨n, .now, b⟩, hydrated, role, sub_last hx', hbegins, rfl, rfl⟩, ?_⟩)
  refine ⟨x, r', ⟨n, .now, b⟩, ⟨n', _, b'⟩, hydrated, role, _, _, sub_last (sub_last hx'), ?_, hbegins, hfinds', hrole' role hrole,
    rfl, rfl, rfl, rfl⟩
  exact hr'.imp_right fun h => sub_snoc (sub_snoc h)

theorem logs_validateLocalUser {email password : String} {post : Log cfg → Account → Prop}
    (h : ∀ x account, x.op = .findUserByEmail (cfg.normalized email) →
      x.before.accountByEmail (cfg.normalized email) = some account → account.role = x.before.roleOf account.id →
      post (l ++ [x]) account) :
    Logs (A := identity cfg) (Allowed cfg call) (validateLocalUser cfg email password) post l := by
  refine logs_bind (logs_read (fun _ _ => trivial) fun n b a b' hperf => ?_)
  obtain ⟨rfl, rfl⟩ := Prod.mk.inj (Except.ok.inj hperf)
  refine logs_bind (logs_need fun account ha => logs_bind (logs_need fun passwordHash _ => ?_))
  refine logs_bind (logs_ensure fun _ => logs_bind (logs_ensure fun _ => logs_bind (logs_requireVerified ?_)))
  refine h ⟨n, _, b⟩ account rfl ha ?_
  obtain ⟨e, _, he⟩ := Option.bind_eq_some_iff.1 ha
  obtain ⟨u, _, rfl⟩ := Option.map_eq_some_iff.1 he
  rfl

theorem logs_loginCall (email password : String) :
    Logs (A := identity cfg) (Allowed cfg (.login email password)) (Call.proc cfg (.login email password))
      (Answered cfg (.login email password)) [] := by
  refine logs_bind (logs_validateLocalUser fun x account hop hfound hrole => ?_)
  have hbegins : Begins cfg (.login email password) account.id x := ⟨hop, by rw [hfound]; rfl⟩
  exact logs_bind ((logs_login (l := [x]) (.refl _) (.inl rfl) hbegins (by rw [hop]; rfl) fun role h => by rw [← hrole, h]).mono
    fun _ _ h => h)

theorem logs_googleCallback (userId : Uuid) :
    Logs (A := identity cfg) (Allowed cfg (.googleCallback userId)) (Call.proc cfg (.googleCallback userId))
      (Answered cfg (.googleCallback userId)) [] := by
  refine logs_bind (logs_read (fun _ _ => trivial) fun n b a b' hperf => ?_)
  obtain ⟨rfl, rfl⟩ := Prod.mk.inj (Except.ok.inj hperf)
  refine logs_bind (logs_need fun account haccount => ?_)
  obtain ⟨u, _, rfl⟩ := Option.map_eq_some_iff.1 (Option.filter_eq_some_iff.1 haccount).1
  have hbegins : Begins cfg (.googleCallback userId) userId ⟨n, .findUser userId, b⟩ := ⟨rfl, rfl⟩
  exact logs_bind ((logs_login (.refl _) (.inl rfl) hbegins rfl fun _ h => h).mono fun _ _ h => ⟨_, h⟩)

theorem logs_refreshToken (userId : Uuid) (token : Token) :
    Logs (A := identity cfg) (Allowed cfg (.refreshToken userId token)) (Call.proc cfg (.refreshToken userId token))
      (Answered cfg (.refreshToken userId token)) [] := by
  refine logs_bind (logs_read (fun _ _ => trivial) fun n₀ _ _ _ _ => ?_)
  refine logs_bind (logs_need fun payload _ => logs_bind (logs_ensure fun _ => ?_))
  refine logs_bind (logs_read (fun _ _ => trivial) fun n b a b' hperf => ?_)
  obtain ⟨rfl, rfl⟩ := Prod.mk.inj (Except.ok.inj hperf)
  refine logs_bind (logs_ensure fun hsaved => ?_)
  have hbegins : Begins cfg (.refreshToken userId token) userId ⟨n, .getRefresh userId, b⟩ := by
    refine ⟨rfl, rfl, ?_⟩
    obtain ⟨hash, hhash, h⟩ := (Option.any_eq_true _ _).1 hsaved
    rw [← (of_decide_eq_true h).2]
    exact hhash
  refine logs_bind (logs_loadUserWithRole fun y account hid hfinds hrole => ?_)
  obtain rfl := hid
  refine logs_bind ((logs_login (x := ⟨n, .getRefresh account.id, b⟩) (r := y) ?_ (.inr ?_) hbegins hfinds
    fun role h => by rw [← hrole, h]).mono fun _ _ h => h)
  · exact sub_snoc (sub_last (nil_sublist _))
  · exact sub_last (sub_last (nil_sublist _))

/-- One operation of a `Promise.all`: when it is heard to succeed, it happened. -/
theorem logs_tryAct {op : Op} {post : Log cfg → Except Err op.Res → Prop} (hallowed : ∀ s, Allowed cfg call l op s)
    (h : ∀ l' r, l <+ l' → (∀ a, r = .ok a → ∃ n b b', perform op b = .ok (a, b') ∧ l' = l ++ [⟨n, op, b⟩]) → post l' r) :
    Logs (A := identity cfg) (Allowed cfg call) (tryAct op) post l := by
  refine logs_attempt (fun n b a b' hperf => ⟨hallowed b, h _ _ (sublist_append_left _ _) fun _ ha => ?_, ?_⟩) fun e => ?_
  · cases ha
    exact ⟨n, b, b', hperf, rfl⟩
  · exact h _ _ (sublist_append_left _ _) fun _ he => nomatch he
  · exact h _ _ (.refl _) fun _ he => nomatch he

theorem logs_revokeSessions {id : Uuid} {c : Act (identity cfg)} (hc : [c] <+ l) (hchange : Changes id c.op c.before) :
    Logs (A := identity cfg) (Allowed cfg call) (revokeSessions id) (fun l _ => Revoked cfg id l) l := by
  refine logs_bind (logs_answer fun order => ?_)
  split
  · refine logs_bind (logs_read (fun _ _ => trivial) fun n b a b' hperf => ?_)
    obtain ⟨rfl, rfl⟩ := Prod.mk.inj (Except.ok.inj hperf)
    refine logs_bind (logs_tryAct (fun _ => trivial) fun l₁ deleted hsub hdeleted => ?_)
    have hnow : [c, ⟨n, .now, b⟩] <+ l₁ := (sub_last hc).trans hsub
    refine logs_bind (logs_tryAct (fun _ => ⟨_, (sublist_cons_self _ _).trans hnow, rfl, rfl, rfl⟩) fun l₂ stored _ hstored => ?_)
    refine logs_bind (logs_ofExcept fun _ hd => logs_ofExcept fun _ hs => ?_)
    obtain ⟨m, b₁, _, _, rfl⟩ := hdeleted _ hd
    obtain ⟨k, b₂, _, _, rfl⟩ := hstored _ hs
    exact ⟨c, ⟨n, .now, b⟩, ⟨m, _, b₁⟩, ⟨k, _, b₂⟩, sub_last hnow, sub_last (sub_last (sub_snoc hc)), hchange, rfl, rfl, rfl⟩
  · refine logs_bind (logs_tryAct (fun _ => trivial) fun l₁ deleted hsub hdeleted => ?_)
    refine logs_bind (logs_read (fun _ _ => trivial) fun n b a b' hperf => ?_)
    obtain ⟨rfl, rfl⟩ := Prod.mk.inj (Except.ok.inj hperf)
    have hnow : [c, ⟨n, .now, b⟩] <+ l₁ ++ [⟨n, .now, b⟩] := sub_last (hc.trans hsub)
    refine logs_bind (logs_tryAct (fun _ => ⟨_, (sublist_cons_self _ _).trans hnow, rfl, rfl, rfl⟩) fun l₂ stored _ hstored => ?_)
    refine logs_bind (logs_ofExcept fun _ hd => logs_ofExcept fun _ hs => ?_)
    obtain ⟨m, b₁, _, _, rfl⟩ := hdeleted _ hd
    obtain ⟨k, b₂, _, _, rfl⟩ := hstored _ hs
    exact ⟨c, ⟨n, .now, b⟩, ⟨m, _, b₁⟩, ⟨k, _, b₂⟩, sub_last hnow, sub_last (sub_snoc (sub_last hc)), hchange, rfl, rfl, rfl⟩

theorem logs_updateUserRole (token : Token) (target : Uuid) (role : RoleName) :
    Logs (A := identity cfg) (Allowed cfg (.updateUserRole token target role)) (Call.proc cfg (.updateUserRole token target role))
      (Answered cfg (.updateUserRole token target role)) [] := by
  refine logs_bind (logs_authenticated fun x₀ claims htoken => logs_bind (logs_ensure fun _ => ?_))
  subst htoken
  refine logs_bind (logs_read (fun _ _ => trivial) fun n₁ b₁ acting _ hacting => ?_)
  refine logs_bind (logs_read (fun _ _ => trivial) fun n₂ b₂ targetUser _ htarget => ?_)
  refine logs_bind (logs_read (fun _ _ => trivial) fun n₃ b₃ next _ hnext => ?_)
  obtain ⟨rfl, rfl⟩ := Prod.mk.inj (Except.ok.inj hacting)
  obtain ⟨rfl, rfl⟩ := Prod.mk.inj (Except.ok.inj htarget)
  obtain ⟨rfl, rfl⟩ := Prod.mk.inj (Except.ok.inj hnext)
  refine logs_bind (logs_need fun actingUser h₁ => logs_bind (logs_need fun targetUser h₂ => logs_bind (logs_need fun nextRole h₃ => ?_)))
  obtain ⟨u₁, _, rfl⟩ := Option.map_eq_some_iff.1 h₁
  obtain ⟨u₂, _, rfl⟩ := Option.map_eq_some_iff.1 h₂
  obtain ⟨hlookup, hname⟩ := AList.find_some h₃
  have hrole : nextRole.2 = role.name := of_decide_eq_true hname
  rw [hrole] at hlookup
  refine logs_bind (logs_ensure fun hguard => ?_)
  rw [hrole] at hguard
  refine logs_bind (logs_trans fun n b _ _ _ => ⟨?_, ?_⟩)
  · exact ⟨claims, role, ⟨n₁, _, b₁⟩, ⟨n₃, _, b₃⟩, rfl, sub_last (sub_snoc (sub_last (nil_sublist _))), rfl, hlookup, rfl, hguard⟩
  · have hchange : Changes target (Op.updateRole target nextRole.1) b := rfl
    refine logs_bind ((logs_revokeSessions (c := ⟨n, _, b⟩) (sub_last (nil_sublist _)) hchange).mono fun l _ hrevoked => ?_)
    refine logs_bind (logs_read (fun _ _ => trivial) fun n' b' _ _ _ => ?_)
    obtain ⟨c, t, d, w, h1, h2, h⟩ := hrevoked
    exact ⟨c, t, d, w, sub_snoc h1, sub_snoc h2, h⟩

theorem logs_changePassword (token : Token) (oldPassword newPassword : String) :
    Logs (A := identity cfg) (Allowed cfg (.changePassword token oldPassword newPassword))
      (Call.proc cfg (.changePassword token oldPassword newPassword)) (Answered cfg (.changePassword token oldPassword newPassword)) [] := by
  refine logs_bind (logs_authenticated fun x₀ claims hclaims => ?_)
  refine logs_bind (logs_read (fun _ _ => trivial) fun n₁ b₁ _ _ hfound => ?_)
  obtain ⟨rfl, rfl⟩ := Prod.mk.inj (Except.ok.inj hfound)
  refine logs_bind (logs_need fun account haccount => logs_bind (logs_need fun passwordHash _ => ?_))
  obtain ⟨user, huser, rfl⟩ := Option.map_eq_some_iff.1 haccount
  refine logs_bind (logs_ensure fun _ => logs_bind (logs_ensure fun _ => logs_bind (logs_answer fun hashed => ?_)))
  refine logs_bind (logs_read (fun _ _ => trivial) fun n₂ b₂ _ _ hreloaded => ?_)
  obtain ⟨rfl, rfl⟩ := Prod.mk.inj (Except.ok.inj hreloaded)
  refine logs_bind (logs_trans fun n b _ _ _ => ⟨?_, ?_⟩)
  · refine ⟨token, oldPassword, newPassword, ⟨n₁, _, b₁⟩, ⟨n₂, _, b₂⟩, user, hashed.text, rfl, sub_last (sub_last (nil_sublist _)),
      rfl, rfl, huser, rfl, ?_⟩
    unfold State.account
    rw [Option.map_map]
    exact Option.map_id'
  · have hchange : Changes claims.sub (Op.saveUser claims.sub { user with passwordHash := some hashed.text }
        ((b₂.account claims.sub).map Account.user)) b := rfl
    exact logs_bind ((logs_revokeSessions (c := ⟨n, _, b⟩) (sub_last (nil_sublist _)) hchange).mono fun l _ hrevoked =>
      ⟨_, claims, hclaims, hrevoked⟩)

theorem logs_resetPassword (token newPassword : String) :
    Logs (A := identity cfg) (Allowed cfg (.resetPassword token newPassword)) (Call.proc cfg (.resetPassword token newPassword))
      (Answered cfg (.resetPassword token newPassword)) [] := by
  refine logs_bind (logs_answer fun hashed => ?_)
  refine logs_bind (logs_read (fun _ _ => trivial) fun n₁ b₁ _ _ hnow => ?_)
  refine logs_bind (logs_trans fun n₂ b₂ userId b₂' hreset => ⟨trivial, ?_⟩)
  refine logs_bind (logs_trans fun n₃ b₃ _ _ _ => ⟨trivial, ?_⟩)
  refine logs_bind (logs_read (fun _ _ => trivial) fun n₄ b₄ _ _ hdate => ?_)
  obtain ⟨rfl, rfl⟩ := Prod.mk.inj (Except.ok.inj hdate)
  refine logs_bind (logs_trans fun n₅ b₅ _ _ _ => ⟨⟨_, sub_last (nil_sublist _), rfl, rfl, rfl⟩, ?_⟩)
  exact ⟨userId, ⟨n₂, _, b₂⟩, ⟨n₄, _, b₄⟩, ⟨n₃, _, b₃⟩, ⟨n₅, _, b₅⟩, sub_last (sub_last (sub_snoc (sub_last (nil_sublist _)))),
    sub_last (sub_snoc (sub_last (sub_last (nil_sublist _)))), ⟨_, hreset⟩, rfl, rfl, rfl⟩

theorem logs_forgotPassword (email : String) :
    Logs (A := identity cfg) (Allowed cfg (.forgotPassword email)) (Call.proc cfg (.forgotPassword email))
      (Answered cfg (.forgotPassword email)) [] := by
  refine logs_bind (logs_read (fun _ _ => trivial) fun n₁ b₁ found _ _ => ?_)
  cases found with
  | none => trivial
  | some account =>
    refine logs_bind (logs_read (fun _ _ => trivial) fun n₂ b₂ usedAt _ _ => ?_)
    refine logs_bind (logs_trans fun n₃ b₃ _ _ _ => ⟨trivial, ?_⟩)
    refine logs_bind (logs_answer fun random => ?_)
    refine logs_bind (logs_read (fun _ _ => trivial) fun n₄ b₄ now _ _ => ?_)
    refine logs_bind (logs_trans fun n₅ b₅ _ _ _ => ⟨⟨⟨n₃, _, b₃⟩, usedAt, sub_snoc (sub_last (nil_sublist _)), rfl, rfl⟩, ?_⟩)
    exact logs_bind (logs_ofExcept fun _ _ => trivial)

theorem logs_logout (token : Token) :
    Logs (A := identity cfg) (Allowed cfg (.logout token)) (Call.proc cfg (.logout token)) (Answered cfg (.logout token)) [] := by
  refine logs_bind (logs_authenticated fun x₀ claims hclaims => ?_)
  refine logs_bind (logs_trans fun n₁ b₁ _ _ _ => ⟨trivial, ?_⟩)
  refine logs_bind (logs_read (fun _ _ => trivial) fun n₂ b₂ _ _ _ => ?_)
  refine logs_bind (logs_trans fun n₃ b₃ _ _ _ => ⟨trivial, ?_⟩)
  exact ⟨_, claims, ⟨n₁, _, b₁⟩, hclaims, sub_snoc (sub_snoc (sub_last (nil_sublist _))), rfl⟩

theorem logs_updateProfile (token : Token) (dto : ProfileDto) :
    Logs (A := identity cfg) (Allowed cfg (.updateProfile token dto)) (Call.proc cfg (.updateProfile token dto))
      (Answered cfg (.updateProfile token dto)) [] := by
  refine logs_bind (logs_authenticated fun x₀ claims _ => ?_)
  refine logs_bind (logs_trans fun _ _ _ _ _ => ⟨trivial, ?_⟩)
  exact logs_bind (logs_read (fun _ _ => trivial) fun _ _ _ _ _ => logs_bind (logs_need fun _ _ => trivial))

/-- The gateway lets a token pass that was not revoked, or when it could not ask. -/
theorem gatewayDecision_passed {payload : Claims} {blacklisted : Except Err (Option Unit)} {validAfterValue : Except Err (Option ℕ)}
    {identity : IdentityHeaders} (h : gatewayDecision cfg payload blacklisted validAfterValue = .passed (some identity)) :
    identity = payload.identity ∧ (cfg.failClosed = false ∨ ∃ value, validAfterValue = .ok value ∧
      ¬ (0 < value.getD 0 ∧ payload.sessionIssuedAt ≤ value.getD 0)) := by
  unfold gatewayDecision at h
  split at h
  · rename_i listed value
    dsimp only at h
    split at h
    · cases h
    · rename_i hnot
      cases h
      exact ⟨rfl, .inr ⟨value, rfl, fun hv => hnot (.inr hv)⟩⟩
  · split at h
    · cases h
    · rename_i hnot
      cases h
      exact ⟨rfl, .inl (by simpa using hnot)⟩

theorem logs_useToken (token : Token) :
    Logs (A := identity cfg) (Allowed cfg call) (useToken cfg token)
      (fun l reply => ∀ identity, reply = .passed (some identity) → Accepted cfg token l identity) l := by
  refine logs_bind (logs_read (fun _ _ => trivial) fun n b now _ _ => ?_)
  split
  · exact fun _ h => nomatch h
  · rename_i payload hpayload
    have hjwt := verify_jwt hpayload
    refine logs_bind (logs_tryAct (fun _ => trivial) fun l₁ blacklisted _ _ => ?_)
    refine logs_bind (logs_tryAct (fun _ => trivial) fun l₂ validAfterValue _ hvalue identity hpassed => ?_)
    obtain ⟨hidentity, hopen | ⟨value, hok, hnot⟩⟩ := gatewayDecision_passed hpassed
    · exact ⟨payload, hjwt, hidentity, .inl hopen⟩
    · obtain ⟨m, b', _, hperf, rfl⟩ := hvalue value hok
      obtain ⟨rfl, rfl⟩ := Prod.mk.inj (Except.ok.inj hperf)
      exact ⟨payload, hjwt, hidentity, .inr ⟨⟨m, _, b'⟩, sub_last (nil_sublist _), rfl, hnot⟩⟩

theorem logs_use (authorization : Authorization) :
    Logs (A := identity cfg) (Allowed cfg (.request authorization)) (Call.proc cfg (.request authorization))
      (Answered cfg (.request authorization)) [] := by
  cases authorization with
  | missing => trivial
  | other text => trivial
  | bearer token =>
    show Logs (A := identity cfg) _ (if token = .text "" then _ else _) _ []
    split
    · trivial
    · refine (logs_useToken token).mono fun l reply h => ?_
      cases reply with
      | passed identity =>
        cases identity with
        | none => trivial
        | some identity => exact h identity rfl
      | _ => trivial

theorem proc_logs (call : Call) : Logs (A := identity cfg) (Allowed cfg call) (call.proc cfg) (Answered cfg call) [] := by
  cases call with
  | login email password => exact logs_loginCall email password
  | googleCallback userId => exact logs_googleCallback userId
  | refreshToken userId token => exact logs_refreshToken userId token
  | logout token => exact logs_logout token
  | forgotPassword email => exact logs_forgotPassword email
  | resetPassword token newPassword => exact logs_resetPassword token newPassword
  | updateProfile token dto => exact logs_updateProfile token dto
  | updateUserRole token target role => exact logs_updateUserRole token target role
  | changePassword token oldPassword newPassword => exact logs_changePassword token oldPassword newPassword
  | request authorization => exact logs_use authorization
  | pass ms => exact logs_bind (logs_trans fun _ _ _ _ _ => ⟨rfl, trivial⟩)

end Programs

end Balii.Identity
