import Balii.Identity.Accounts
/-!
# Verification — who has confirmed an address

An address counts as confirmed when a link that was made for it is presented in time, when Google vouches for it, or while the service is
set up to ask for no confirmation; whatever the calls do to each other.
-/
namespace Balii.Identity

open Machine Threads

abbrev Past := Moves AccountStore Session Outside

/-! ## What has happened -/

/-- A link was made for the user of the address; the mail with its token goes there. -/
def LinkMade (h : Past) (email token : String) (now : ℕ) : Prop :=
  ∃ m ∈ h, ∃ id reply a, Performs (.issuing id email reply) a m ∧ a.text = token ∧ a.now = now

def Presented (h : Past) (token : String) (now : ℕ) : Prop := ∃ m ∈ h, ∃ a, Performs (.verifying token) a m ∧ a.now = now

/-- Someone signs in with Google, which says that the address is theirs. -/
def GoogleVouched (cfg : Config) (h : Past) (email : String) : Prop :=
  ∃ m ∈ h, ∃ profile a, Performs (.signingIn profile) a m ∧ profile.emailVerified = true ∧ cfg.normalized profile.email = email

/-- A user of the first database has the address, confirmed. -/
def ConfirmedBefore (start : AccountStore) (email : String) : Prop :=
  ∃ id u, start.users.lookup id = some u ∧ u.email = email ∧ u.emailVerifiedAt ≠ none

def Confirmed (cfg : Config) (start : AccountStore) (h : Past) (email : String) : Prop :=
  (∃ token token' made now, LinkMade h email token' made ∧ Presented h token now ∧
      cfg.hashActionToken (.text token) = cfg.hashActionToken (.text token') ∧ now ≤ made + 15 * 60 * 1000) ∨
    GoogleVouched cfg h email ∨ cfg.emailVerification = .ok false ∨ ConfirmedBefore start email

/-- The user is there, under this address. -/
def HasEmail (s : AccountStore) (id : Uuid) (email : String) : Prop := ∃ u, s.users.lookup id = some u ∧ u.email = email

/-! ## The invariant -/

structure Sound (cfg : Config) (start : AccountStore) (h : Past) (s : AccountStore) : Prop where
  confirmed : ∀ id u, s.users.lookup id = some u → u.emailVerifiedAt ≠ none → Confirmed cfg start h u.email
  unique : ∀ id id' u u', s.users.lookup id = some u → s.users.lookup id' = some u' → u.email = u'.email → id = id'
  records : ∀ k r, s.verifications.lookup k = some r → ∃ email token made, HasEmail s r.userId email ∧ LinkMade h email token made ∧
    r.token = cfg.hashActionToken (.text token) ∧ r.expiresAt = made + 15 * 60 * 1000

def Vouched (cfg : Config) (h : Past) (profile : GoogleUserProfile) : Prop :=
  profile.emailVerified = true ∧ GoogleVouched cfg h (cfg.normalized profile.email)

/-- What an open sign-in has written so far is about the user with the address that Google vouches for. -/
inductive Prepared (cfg : Config) (s : AccountStore) (profile : GoogleUserProfile) (userId : Uuid) : List AccountWrite → Prop
  | found (hemail : HasEmail s userId (cfg.normalized profile.email)) : Prepared cfg s profile userId []
  | created {user : User} (huser : user.email = cfg.normalized profile.email) : Prepared cfg s profile userId [.newUser userId user]
  | saved {user r : User} (hemail : HasEmail s userId (cfg.normalized profile.email)) (huser : user.email = cfg.normalized profile.email)
      (hr : r.email = cfg.normalized profile.email) : Prepared cfg s profile userId [.savedUser userId user (some r)]

/-- What a call knows at each of its statements. -/
def Session.Knows (cfg : Config) (start : AccountStore) (h : Past) (s : AccountStore) : Session → Prop
  | inserting user => user.emailVerifiedAt = none
  | saving id user _ => HasEmail s id user.email ∧ (user.emailVerifiedAt ≠ none → Confirmed cfg start h user.email)
  | updating id user reloaded _ => HasEmail s id user.email ∧ (user.emailVerifiedAt ≠ none → Confirmed cfg start h user.email) ∧
      ∃ r, reloaded = some r ∧ r.email = user.email
  | issuing id email _ | retiring id email => HasEmail s id email
  | confirming _ record => ∃ email, HasEmail s record.userId email ∧ Confirmed cfg start h email
  | confirmingUnasked _ => cfg.emailVerification = .ok false
  | finding profile => Vouched cfg h profile
  | creating profile user => Vouched cfg h profile ∧ user.email = cfg.normalized profile.email
  | reviving profile id user => Vouched cfg h profile ∧ HasEmail s id user.email ∧ user.email = cfg.normalized profile.email
  | rewriting profile id user reloaded => Vouched cfg h profile ∧ HasEmail s id user.email ∧ user.email = cfg.normalized profile.email ∧
      ∃ r, reloaded = some r ∧ r.email = user.email
  | linking profile userId written => Vouched cfg h profile ∧ Prepared cfg s profile userId written
  | committing profile userId written => Vouched cfg h profile ∧ ∃ before k,
      written = before ++ [.newLink k ⟨userId, profile.providerUserId⟩] ∧ Prepared cfg s profile userId before
  | _ => True

/-- Users and their addresses stay. -/
def KeepsEmails (s s' : AccountStore) : Prop := ∀ id email, HasEmail s id email → HasEmail s' id email

section
variable {cfg : Config} {customerRole : Option ℕ} {start : AccountStore} {h : Past}
  {m : Move (World AccountStore Session) (Label Session Outside)} {s s' : AccountStore} {id : Uuid} {u : User} {email : String} {a : Outside}

theorem LinkMade.mono {token : String} {now : ℕ} (hi : LinkMade h email token now) : LinkMade (h ++ [m]) email token now := by
  obtain ⟨m', hm, hi⟩ := hi
  exact ⟨m', List.mem_append_left _ hm, hi⟩

theorem GoogleVouched.mono (hg : GoogleVouched cfg h email) : GoogleVouched cfg (h ++ [m]) email := by
  obtain ⟨m', hm, hg⟩ := hg
  exact ⟨m', List.mem_append_left _ hm, hg⟩

theorem Vouched.mono {profile : GoogleUserProfile} (hv : Vouched cfg h profile) : Vouched cfg (h ++ [m]) profile :=
  ⟨hv.1, hv.2.mono⟩

theorem Confirmed.mono (hc : Confirmed cfg start h email) : Confirmed cfg start (h ++ [m]) email := by
  rcases hc with ⟨token, token', made, now, hi, ⟨m', hm, hp⟩, hrest⟩ | ⟨m', hm, hg⟩ | hoff
  · exact .inl ⟨token, token', made, now, hi.mono, ⟨m', List.mem_append_left _ hm, hp⟩, hrest⟩
  · exact .inr (.inl (GoogleVouched.mono ⟨m', hm, hg⟩))
  · exact .inr (.inr hoff)

theorem Sound.mono (hs : Sound cfg start h s) : Sound cfg start (h ++ [m]) s where
  confirmed id u hu hv := (hs.confirmed id u hu hv).mono
  unique := hs.unique
  records k r hr := by
    obtain ⟨email, token, made, hemail, hissued, hrest⟩ := hs.records k r hr
    exact ⟨email, token, made, hemail, hissued.mono, hrest⟩

theorem Prepared.stable {profile : GoogleUserProfile} {written : List AccountWrite} (hk : KeepsEmails s s')
    (hp : Prepared cfg s profile id written) : Prepared cfg s' profile id written := by
  cases hp with
  | found hemail => exact .found (hk _ _ hemail)
  | created huser => exact .created huser
  | saved hemail huser hr => exact .saved (hk _ _ hemail) huser hr

theorem Session.Knows.stable {t : Session} (hk : KeepsEmails s s') (ht : t.Knows cfg start h s) : t.Knows cfg start (h ++ [m]) s' := by
  cases t with
  | inserting => exact ht
  | saving => exact ⟨hk _ _ ht.1, fun hv => (ht.2 hv).mono⟩
  | updating => exact ⟨hk _ _ ht.1, fun hv => (ht.2.1 hv).mono, ht.2.2⟩
  | issuing => exact hk _ _ ht
  | retiring => exact hk _ _ ht
  | confirming =>
    obtain ⟨email, hemail, hc⟩ := ht
    exact ⟨email, hk _ _ hemail, hc.mono⟩
  | confirmingUnasked => exact ht
  | finding => exact ht.mono
  | creating => exact ⟨ht.1.mono, ht.2⟩
  | reviving => exact ⟨ht.1.mono, hk _ _ ht.2.1, ht.2.2⟩
  | rewriting => exact ⟨ht.1.mono, hk _ _ ht.2.1, ht.2.2⟩
  | linking => exact ⟨ht.1.mono, ht.2.stable hk⟩
  | committing =>
    obtain ⟨hv, before, k, hwritten, hp⟩ := ht
    exact ⟨hv.mono, before, k, hwritten, hp.stable hk⟩
  | _ => trivial

theorem userByEmail_some {e : String} (hf : s.userByEmail e = some (id, u)) : s.users.lookup id = some u ∧ u.email = e := by
  obtain ⟨hl, he⟩ := AList.find_some hf
  exact ⟨hl, beq_iff_eq.1 he⟩

/-! ## What a statement may write -/

/-- **A statement on one user** that leaves the address, and confirms it with good reason only. -/
theorem sound_modify (id : Uuid) (f : User → User) (hs : Sound cfg start h s) (hf : ∀ u, s.users.lookup id = some u → (f u).email = u.email)
    (hv : ∀ u, s.users.lookup id = some u → (f u).emailVerifiedAt ≠ none → Confirmed cfg start (h ++ [m]) u.email) :
    KeepsEmails s (s.setUsers (s.users.modify id f)) ∧ Sound cfg start (h ++ [m]) (s.setUsers (s.users.modify id f)) := by
  have hlookup : ∀ {k u'}, (s.setUsers (s.users.modify id f)).users.lookup k = some u' →
      ∃ u, s.users.lookup k = some u ∧ u'.email = u.email ∧ (u'.emailVerifiedAt ≠ none → Confirmed cfg start (h ++ [m]) u.email) := by
    intro k u' hu'
    change (s.users.modify id f).lookup k = some u' at hu'
    rw [AList.lookup_modify] at hu'
    by_cases hk : k = id
    · subst hk
      rw [if_pos rfl] at hu'
      obtain ⟨u, hu, rfl⟩ := Option.map_eq_some_iff.1 hu'
      exact ⟨u, hu, hf u hu, hv u hu⟩
    · rw [if_neg hk] at hu'
      exact ⟨u', hu', rfl, fun hver => (hs.confirmed k u' hu' hver).mono⟩
  have hkeeps : KeepsEmails s (s.setUsers (s.users.modify id f)) := by
    rintro k email ⟨u, hu, he⟩
    change ∃ u', (s.users.modify id f).lookup k = some u' ∧ u'.email = email
    rw [AList.lookup_modify]
    by_cases hk : k = id
    · subst hk
      rw [if_pos rfl, hu]
      exact ⟨f u, rfl, (hf u hu).trans he⟩
    · rw [if_neg hk]
      exact ⟨u, hu, he⟩
  refine ⟨hkeeps, fun k u' hu' hver => ?_, fun k k' u u' hu hu' he => ?_, fun k r hr => ?_⟩
  · obtain ⟨u, -, he, hc⟩ := hlookup hu'
    rw [he]
    exact hc hver
  · obtain ⟨v, hv, he₁, -⟩ := hlookup hu
    obtain ⟨v', hv', he₂, -⟩ := hlookup hu'
    exact hs.unique k k' v v' hv hv' (he₁.symm.trans (he.trans he₂))
  · obtain ⟨email, token, made, hemail, hissued, hrest⟩ := hs.records k r hr
    exact ⟨email, token, made, hkeeps _ _ hemail, hissued.mono, hrest⟩

theorem insertUser_ok {user : User} (hins : insertUser s id user = .ok s') :
    s.userByEmail user.email = none ∧ s.users.lookup id = none ∧ s' = s.setUsers (s.users.insert id user) := by
  unfold insertUser at hins
  split at hins
  · cases hins
  · rename_i hfree
    rw [not_or] at hfree
    have hnone : s.users.lookup id = none := by simpa using hfree.2
    cases hins
    exact ⟨by simpa using hfree.1, hnone, by rw [AList.insertNew_of_none user hnone]⟩

/-- **A new user**, confirmed with good reason only. -/
theorem sound_insert {user : User} (hs : Sound cfg start h s) (hins : insertUser s id user = .ok s')
    (hv : user.emailVerifiedAt ≠ none → Confirmed cfg start (h ++ [m]) user.email) :
    KeepsEmails s s' ∧ Sound cfg start (h ++ [m]) s' ∧ HasEmail s' id user.email := by
  obtain ⟨hemail, hid, rfl⟩ := insertUser_ok hins
  have hother : ∀ {k}, k ≠ id → (s.setUsers (s.users.insert id user)).users.lookup k = s.users.lookup k := fun hk => AList.lookup_insert_ne hk
  have hself : (s.setUsers (s.users.insert id user)).users.lookup id = some user := AList.lookup_insert _
  have hnew : ∀ {k v}, s.users.lookup k = some v → v.email ≠ user.email := by
    intro k v hv he
    have hfound := AList.find_eq_none.1 hemail k v hv
    simp [he] at hfound
  have hkeeps : KeepsEmails s (s.setUsers (s.users.insert id user)) := by
    rintro k email ⟨v, hv, he⟩
    have hk : k ≠ id := fun hk => by cases hid.symm.trans (hk ▸ hv)
    exact ⟨v, (hother hk).trans hv, he⟩
  refine ⟨hkeeps, ⟨fun k v hv' hver => ?_, fun k k' v v' hk hk' he => ?_, fun k r hr => ?_⟩, user, hself, rfl⟩
  · by_cases hk : k = id
    · subst hk
      cases Option.some.inj (hself.symm.trans hv')
      exact hv hver
    · exact (hs.confirmed k v ((hother hk).symm.trans hv') hver).mono
  · by_cases h₁ : k = id <;> by_cases h₂ : k' = id
    · rw [h₁, h₂]
    · subst h₁
      cases Option.some.inj (hself.symm.trans hk)
      exact absurd he.symm (hnew ((hother h₂).symm.trans hk'))
    · subst h₂
      cases Option.some.inj (hself.symm.trans hk')
      exact absurd he (hnew ((hother h₁).symm.trans hk))
    · exact hs.unique k k' v v' ((hother h₁).symm.trans hk) ((hother h₂).symm.trans hk') he
  · obtain ⟨email, token, made, hemail, hissued, hrest⟩ := hs.records k r hr
    exact ⟨email, token, made, hkeeps _ _ hemail, hissued.mono, hrest⟩

/-- The links that are there keep whom they are for. -/
theorem sound_records (s' : AccountStore) (hs : Sound cfg start h s) (husers : s'.users = s.users)
    (hr : ∀ k r, s'.verifications.lookup k = some r → (∃ r₀, s.verifications.lookup k = some r₀ ∧ r.userId = r₀.userId ∧
      r.token = r₀.token ∧ r.expiresAt = r₀.expiresAt) ∨ ∃ email token made, HasEmail s r.userId email ∧ LinkMade (h ++ [m]) email token made ∧
        r.token = cfg.hashActionToken (.text token) ∧ r.expiresAt = made + 15 * 60 * 1000) :
    KeepsEmails s s' ∧ Sound cfg start (h ++ [m]) s' := by
  have hkeeps : KeepsEmails s s' := by
    rintro id email ⟨u, hu, he⟩
    exact ⟨u, husers ▸ hu, he⟩
  refine ⟨hkeeps, fun k v hv hver => ?_, ?_, fun k r hk => ?_⟩
  · rw [husers] at hv
    exact (hs.confirmed k v hv hver).mono
  · rw [husers]
    exact hs.unique
  · rcases hr k r hk with ⟨r₀, hr₀, huser, htoken, hexpires⟩ | ⟨email, token, made, hemail, hrest⟩
    · obtain ⟨email, token, made, hemail, hissued, ht, he⟩ := hs.records k r₀ hr₀
      exact ⟨email, token, made, huser ▸ hkeeps _ _ hemail, hissued.mono, htoken.trans ht, hexpires.trans he⟩
    · exact ⟨email, token, made, hkeeps _ _ hemail, hrest⟩

theorem insertRecord_ok {row : EmailVerification} (hins : insertRecord s id row = .ok s') :
    s' = { s with verifications := s.verifications.insert id row } := by
  unfold insertRecord at hins
  split at hins
  · cases hins
  · rename_i hfree
    rw [not_or] at hfree
    have hnone : s.verifications.lookup id = none := by simpa using hfree.2
    cases hins
    rw [AList.insertNew_of_none row hnone]

theorem saved_email {user r u : User} (hr : r.email = user.email) : (user.saved r u).email = u.email := by
  simp [User.saved, column, hr]

theorem saved_verified {user r u : User} (hv : (user.saved r u).emailVerifiedAt ≠ none) :
    u.emailVerifiedAt ≠ none ∨ user.emailVerifiedAt ≠ none := by
  unfold User.saved column at hv
  dsimp only at hv
  split at hv
  · exact .inl hv
  · exact .inr hv

/-! ## The sign-in with Google -/

theorem insertLink_ok {row : OAuthAccount} (hins : insertLink s id row = .ok s') :
    s.linked row.providerUserId = none ∧ s.oauthAccounts.lookup id = none ∧
      s' = ⟨s.users, s.verifications, s.oauthAccounts.insert id row⟩ := by
  unfold insertLink at hins
  split at hins
  · cases hins
  · rename_i hfree
    rw [not_or] at hfree
    have hnone : s.oauthAccounts.lookup id = none := by simpa using hfree.2
    cases hins
    exact ⟨by simpa using hfree.1, hnone, by rw [AList.insertNew_of_none row hnone]⟩

theorem verified_of_accepted {profile : GoogleUserProfile} (h : ¬ refusesProfile cfg profile = true) : profile.emailVerified = true := by
  simp only [refusesProfile, Bool.or_eq_true, not_or, Bool.not_eq_true', Bool.not_eq_false] at h
  exact h.2

theorem after_single (c : AccountWrite) : s.after [c] = c.perform s := by
  unfold AccountStore.after
  rw [List.foldlM_cons]
  exact bind_pure _

theorem after_snoc {written : List AccountWrite} {c : AccountWrite} (hok : s.after (written ++ [c]) = .ok s') :
    ∃ s₁, s.after written = .ok s₁ ∧ c.perform s₁ = .ok s' := by
  unfold AccountStore.after at hok
  rw [List.foldlM_append] at hok
  cases hbefore : s.after written with
  | error e =>
    unfold AccountStore.after at hbefore
    rw [hbefore] at hok
    cases hok
  | ok s₁ =>
    unfold AccountStore.after at hbefore
    rw [hbefore] at hok
    exact ⟨s₁, rfl, (after_single c).symm.trans hok⟩

/-- **What a sign-in writes of the user**: Google vouches for the address. -/
theorem sound_prepared {profile : GoogleUserProfile} {written : List AccountWrite} (hs : Sound cfg start h s)
    (hv : Vouched cfg h profile) (hp : Prepared cfg s profile id written) (hok : s.after written = .ok s') :
    KeepsEmails s s' ∧ Sound cfg start (h ++ [m]) s' ∧
      HasEmail s' id (cfg.normalized profile.email) ∧ s'.oauthAccounts = s.oauthAccounts := by
  have hconfirmed : Confirmed cfg start (h ++ [m]) (cfg.normalized profile.email) := Confirmed.mono (.inr (.inl hv.2))
  cases hp with
  | found hemail =>
    cases hok
    exact ⟨fun _ _ he => he, hs.mono, hemail, rfl⟩
  | @created user huser =>
    rw [after_single] at hok
    obtain ⟨hkeeps, hsound, hemail⟩ := sound_insert hs hok fun _ => huser ▸ hconfirmed
    obtain ⟨-, -, rfl⟩ := insertUser_ok hok
    exact ⟨hkeeps, hsound, huser ▸ hemail, rfl⟩
  | @saved user r hemail huser hr =>
    rw [after_single] at hok
    cases hok
    obtain ⟨u, hu, he⟩ := hemail
    have hsaved := sound_modify (m := m) id (user.saved r) hs (fun u _ => saved_email (u := u) (hr.trans huser.symm)) fun v hv _ => by
      cases Option.some.inj (hu.symm.trans hv)
      rw [he]
      exact hconfirmed
    exact ⟨hsaved.1, hsaved.2, hsaved.1 _ _ ⟨u, hu, he⟩, rfl⟩

/-- **The commit of a sign-in** adds the link, to the user with the address. -/
theorem sound_commit {profile : GoogleUserProfile} {userId : Uuid} {written : List AccountWrite} (hs : Sound cfg start h s)
    (ht : (Session.committing profile userId written).Knows cfg start h s) (hok : s.after written = .ok s') :
    KeepsEmails s s' ∧ Sound cfg start (h ++ [m]) s' ∧ HasEmail s' userId (cfg.normalized profile.email) ∧
      ∃ k, s.linked profile.providerUserId = none ∧ s.oauthAccounts.lookup k = none ∧
        s'.oauthAccounts = s.oauthAccounts.insert k ⟨userId, profile.providerUserId⟩ := by
  obtain ⟨hv, before, k, rfl, hp⟩ := ht
  obtain ⟨s₁, hbefore, hlink⟩ := after_snoc hok
  obtain ⟨hkeeps, hsound, hemail, hsame⟩ := sound_prepared (m := m) hs hv hp hbefore
  obtain ⟨hnone, hfree, rfl⟩ := insertLink_ok hlink
  have hnone' : s.linked profile.providerUserId = none := by
    unfold AccountStore.linked at hnone ⊢
    rwa [hsame] at hnone
  exact ⟨hkeeps, ⟨hsound.confirmed, hsound.unique, hsound.records⟩, hemail, k, hnone', hsame ▸ hfree, congrArg (AList.insert k _) hsame⟩

/-! ## Each statement -/

theorem lookup_foldl_modify (f : EmailVerification → EmailVerification) (keys : List Uuid) (t : Table Uuid EmailVerification) {k : Uuid}
    {r : EmailVerification} (hf : ∀ r, (f r).userId = r.userId ∧ (f r).token = r.token ∧ (f r).expiresAt = r.expiresAt)
    (hr : (keys.foldl (fun t k => t.modify k f) t).lookup k = some r) :
    ∃ r₀, t.lookup k = some r₀ ∧ r.userId = r₀.userId ∧ r.token = r₀.token ∧ r.expiresAt = r₀.expiresAt := by
  induction keys generalizing t with
  | nil => exact ⟨r, hr, rfl, rfl, rfl⟩
  | cons k' keys ih =>
    obtain ⟨r₁, hr₁, h₁⟩ := ih _ hr
    rw [AList.lookup_modify] at hr₁
    by_cases hk : k = k'
    · rw [if_pos hk] at hr₁
      obtain ⟨r₀, hr₀, rfl⟩ := Option.map_eq_some_iff.1 hr₁
      obtain ⟨hu, ht, he⟩ := hf r₀
      exact ⟨r₀, hr₀, h₁.1.trans hu, h₁.2.1.trans ht, h₁.2.2.trans he⟩
    · rw [if_neg hk] at hr₁
      exact ⟨r₁, hr₁, h₁⟩

/-- A row that may differ in its mark only. -/
theorem lookup_modify_mark (f : EmailVerification → EmailVerification) {t : Table Uuid EmailVerification} {k k' : Uuid}
    {r : EmailVerification} (hf : ∀ r, (f r).userId = r.userId ∧ (f r).token = r.token ∧ (f r).expiresAt = r.expiresAt)
    (hr : (t.modify k' f).lookup k = some r) :
    ∃ r₀, t.lookup k = some r₀ ∧ r.userId = r₀.userId ∧ r.token = r₀.token ∧ r.expiresAt = r₀.expiresAt :=
  lookup_foldl_modify f [k'] t hf hr

theorem Session.turn_sound {t : Session} (hs : Sound cfg start h s) (ht : t.Knows cfg start h s) (hm : Performs t a m) :
    KeepsEmails s (t.turn cfg customerRole a s).1 ∧ Sound cfg start (h ++ [m]) (t.turn cfg customerRole a s).1 ∧
      (t.turn cfg customerRole a s).2.Knows cfg start (h ++ [m]) (t.turn cfg customerRole a s).1 := by
  have hread : ∀ {t' : Session}, t'.Knows cfg start (h ++ [m]) s →
      KeepsEmails s s ∧ Sound cfg start (h ++ [m]) s ∧ t'.Knows cfg start (h ++ [m]) s :=
    fun hk => ⟨fun _ _ he => he, hs.mono, hk⟩
  have hlast : m ∈ h ++ [m] := List.mem_append_right _ List.mem_cons_self
  cases t with
  | registering dto =>
    unfold Session.turn
    dsimp only
    cases s.userByEmail (cfg.normalized dto.email) with
    | none => exact hread trivial
    | some e => exact hread trivial
  | hashing dto email =>
    unfold Session.turn
    dsimp only
    cases customerRole with
    | none => exact hread trivial
    | some roleId => exact hread rfl
  | inserting user =>
    unfold Session.turn
    dsimp only
    cases hins : insertUser s a.id user with
    | error e => exact hread trivial
    | ok s₁ =>
      obtain ⟨hkeeps, hsound, hemail⟩ := sound_insert hs hins fun hv => absurd ht hv
      refine ⟨hkeeps, hsound, ?_⟩
      dsimp only [afterInsert]
      split
      · trivial
      · rename_i hoff
        exact ⟨hemail, fun _ => .inr (.inr (.inl hoff))⟩
      · exact hemail
  | saving id user reply =>
    obtain ⟨r, hr, he⟩ := ht.1
    exact hread ⟨ht.1, fun hv => (ht.2 hv).mono, r, hr, he⟩
  | updating id user reloaded reply =>
    obtain ⟨hemail, hconfirmed, r, rfl, hr⟩ := ht
    obtain ⟨hkeeps, hsound⟩ := sound_modify (m := m) id (user.saved r) hs (fun u _ => saved_email (u := u) hr) fun u hu hv => by
      obtain ⟨u', hu', he⟩ := hemail
      cases Option.some.inj (hu'.symm.trans hu)
      rcases saved_verified hv with hv | hv
      · exact (hs.confirmed id _ hu hv).mono
      · rw [he]
        exact (hconfirmed hv).mono
    exact ⟨hkeeps, hsound, trivial⟩
  | issuing id email reply =>
    unfold Session.turn
    dsimp only
    cases hins : insertRecord s a.id ⟨id, cfg.hashActionToken (.text a.text), a.now + 15 * 60 * 1000, none⟩ with
    | error e => exact hread trivial
    | ok s₁ =>
      obtain rfl := insertRecord_ok hins
      have hrows : ∀ k r, (s.verifications.insert a.id ⟨id, cfg.hashActionToken (.text a.text), a.now + 15 * 60 * 1000, none⟩).lookup k =
          some r → (∃ r₀, s.verifications.lookup k = some r₀ ∧ r.userId = r₀.userId ∧ r.token = r₀.token ∧ r.expiresAt = r₀.expiresAt) ∨
            ∃ email token made, HasEmail s r.userId email ∧ LinkMade (h ++ [m]) email token made ∧
              r.token = cfg.hashActionToken (.text token) ∧ r.expiresAt = made + 15 * 60 * 1000 := by
        intro k r hr
        by_cases hk : k = a.id
        · subst hk
          rw [AList.lookup_insert] at hr
          cases hr
          exact .inr ⟨email, a.text, a.now, ht, ⟨m, hlast, id, reply, a, hm, rfl, rfl⟩, rfl, rfl⟩
        · rw [AList.lookup_insert_ne hk] at hr
          exact .inl ⟨r, hr, rfl, rfl, rfl⟩
      have hissue := sound_records ⟨s.users, s.verifications.insert a.id _, s.oauthAccounts⟩ hs rfl hrows
      exact ⟨hissue.1, hissue.2, trivial⟩
  | mailing email token reply => exact hread trivial
  | verifying token =>
    unfold Session.turn
    dsimp only
    cases hfound : s.record (cfg.hashActionToken (.text token)) with
    | none => exact hread trivial
    | some e =>
      obtain ⟨id, record⟩ := e
      dsimp only
      split
      · exact hread trivial
      · split
        · exact hread trivial
        · rename_i hexpires
          refine hread ?_
          obtain ⟨hl, he⟩ := AList.find_some hfound
          obtain ⟨email, token', made, hemail, hissued, htoken, hend⟩ := hs.records id record hl
          refine ⟨email, hemail, .inl ⟨token, token', made, a.now, hissued.mono, ⟨m, hlast, a, hm, rfl⟩, ?_, by omega⟩⟩
          exact (beq_iff_eq.1 he).symm.trans htoken
  | confirming recordId record =>
    obtain ⟨email, hemail, hconfirmed⟩ := ht
    obtain ⟨hkeeps, hsound⟩ := sound_modify (m := m) record.userId (fun u => { u with emailVerifiedAt := some a.now }) hs
      (fun _ _ => rfl) fun u hu _ => by
        obtain ⟨u', hu', he⟩ := hemail
        cases Option.some.inj (hu'.symm.trans hu)
        rw [he]
        exact hconfirmed.mono
    exact ⟨hkeeps, hsound, trivial⟩
  | marking recordId =>
    have hmark : KeepsEmails s (turn cfg customerRole (marking recordId) a s).1 ∧
        Sound cfg start (h ++ [m]) (turn cfg customerRole (marking recordId) a s).1 :=
      sound_records _ hs rfl fun k r hr => .inl (lookup_modify_mark (fun r => { r with usedAt := some a.now }) (fun r => ⟨rfl, rfl, rfl⟩) hr)
    exact ⟨hmark.1, hmark.2, trivial⟩
  | resending email =>
    unfold Session.turn
    dsimp only
    cases hfound : s.userByEmail (cfg.normalized email) with
    | none => exact hread trivial
    | some e =>
      obtain ⟨id, user⟩ := e
      dsimp only
      split
      · exact hread trivial
      · split
        · exact hread trivial
        · rename_i hoff
          exact hread hoff
        · exact hread ⟨user, (userByEmail_some hfound).1, rfl⟩
  | confirmingUnasked id =>
    obtain ⟨hkeeps, hsound⟩ := sound_modify (m := m) id (fun u => { u with emailVerifiedAt := some a.now }) hs
      (fun _ _ => rfl) fun u _ _ => .inr (.inr (.inl ht))
    exact ⟨hkeeps, hsound, trivial⟩
  | retiring id email =>
    have hretire : KeepsEmails s (turn cfg customerRole (retiring id email) a s).1 ∧
        Sound cfg start (h ++ [m]) (turn cfg customerRole (retiring id email) a s).1 :=
      sound_records _ hs rfl fun k r hr => .inl (lookup_foldl_modify _ _ _ (fun r => by split <;> exact ⟨rfl, rfl, rfl⟩) hr)
    exact ⟨hretire.1, hretire.2, hretire.1 _ _ ht⟩
  | signingIn profile =>
    unfold Session.turn
    dsimp only
    split
    · exact hread trivial
    · rename_i haccepted
      cases s.linked profile.providerUserId with
      | some e => exact hread trivial
      | none => exact hread ⟨verified_of_accepted haccepted, m, hlast, profile, a, hm, verified_of_accepted haccepted, rfl⟩
  | finding profile =>
    unfold Session.turn
    dsimp only
    cases hfound : s.userByEmail (cfg.normalized profile.email) with
    | none =>
      cases customerRole with
      | none => exact hread trivial
      | some roleId => exact hread ⟨ht.mono, rfl⟩
    | some e =>
      obtain ⟨id, u⟩ := e
      obtain ⟨hu, he⟩ := userByEmail_some hfound
      dsimp only
      split
      · exact hread trivial
      · split
        · exact hread ⟨ht.mono, ⟨u, hu, rfl⟩, he⟩
        · exact hread ⟨ht.mono, .found ⟨u, hu, he⟩⟩
  | creating profile user =>
    unfold Session.turn writes
    dsimp only
    cases s.after [.newUser a.id user] with
    | error e => exact hread trivial
    | ok s₁ => exact hread ⟨ht.1.mono, .created ht.2⟩
  | reviving profile id user =>
    obtain ⟨r, hr, he⟩ := ht.2.1
    exact hread ⟨ht.1.mono, ht.2.1, ht.2.2, r, hr, he⟩
  | rewriting profile id user reloaded =>
    obtain ⟨hv, hemail, huser, r, rfl, hr⟩ := ht
    unfold Session.turn writes
    dsimp only
    cases s.after [.savedUser id user (some r)] with
    | error e => exact hread trivial
    | ok s₁ => exact hread ⟨hv.mono, .saved (huser ▸ hemail) huser (hr.trans huser)⟩
  | linking profile userId written =>
    unfold Session.turn writes
    dsimp only
    cases s.after (written ++ [.newLink a.id ⟨userId, profile.providerUserId⟩]) with
    | error e => exact hread trivial
    | ok s₁ => exact hread ⟨ht.1.mono, written, a.id, rfl, ht.2⟩
  | committing profile userId written =>
    unfold Session.turn
    dsimp only
    cases hok : s.after written with
    | error e => exact hread trivial
    | ok s₁ =>
      obtain ⟨hkeeps, hsound, -⟩ := sound_commit (m := m) hs ht hok
      exact ⟨hkeeps, hsound, trivial⟩
  | loading userId =>
    unfold Session.turn
    dsimp only
    cases s.users.lookup userId with
    | none => exact hread trivial
    | some u => dsimp only; split <;> exact hread trivial
  | changingPassword userId oldPassword newPassword =>
    unfold Session.turn
    dsimp only
    cases hu : s.users.lookup userId with
    | none => exact hread trivial
    | some user =>
      dsimp only
      split
      · exact hread trivial
      · split
        · exact hread trivial
        · split
          · exact hread trivial
          · exact hread ⟨⟨user, hu, rfl⟩, fun hv => (hs.confirmed userId user hu hv).mono⟩
  | ended result => exact hread trivial

theorem sound_others (hs : Sound cfg start h s) (ho : s.Edited s') : KeepsEmails s s' ∧ Sound cfg start (h ++ [m]) s' := by
  obtain ⟨hrecords, -, husers⟩ := ho
  have hback : ∀ {k u'}, s'.users.lookup k = some u' →
      ∃ u, s.users.lookup k = some u ∧ u.email = u'.email ∧ u.emailVerifiedAt = u'.emailVerifiedAt := by
    intro k u' hu'
    have hk := husers k
    rw [hu'] at hk
    obtain ⟨u, hu, he⟩ := Option.map_eq_some_iff.1 hk.symm
    exact ⟨u, hu, congrArg Prod.fst he, congrArg Prod.snd he⟩
  have hkeeps : KeepsEmails s s' := by
    rintro k email ⟨u, hu, he⟩
    have hk := husers k
    rw [hu] at hk
    obtain ⟨u', hu', he'⟩ := Option.map_eq_some_iff.1 hk
    exact ⟨u', hu', (congrArg Prod.fst he').trans he⟩
  refine ⟨hkeeps, fun k u' hu' hver => ?_, fun k k' u u' hu hu' he => ?_, fun k r hr => ?_⟩
  · obtain ⟨u, hu, he, hv⟩ := hback hu'
    rw [← he]
    exact (hs.confirmed k u hu fun hnone => hver (hv.symm.trans hnone)).mono
  · obtain ⟨v, hv, he₁, -⟩ := hback hu
    obtain ⟨v', hv', he₂, -⟩ := hback hu'
    exact hs.unique k k' v v' hv hv' (he₁.trans (he.trans he₂.symm))
  · rw [hrecords] at hr
    obtain ⟨email, token, made, hemail, hissued, hrest⟩ := hs.records k r hr
    exact ⟨email, token, made, hkeeps _ _ hemail, hissued.mono, hrest⟩

/-! ## The links to Google -/

/-- The sign-in commits for this user: whom the account is linked to, or who is linked to it now. -/
def SignsIn (cfg : Config) (profile : GoogleUserProfile) (userId : Uuid)
    (m : Move (World AccountStore Session) (Label Session Outside)) : Prop :=
  (∃ a k o, Performs (.signingIn profile) a m ∧ refusesProfile cfg profile = false ∧
      m.before.shared.linked profile.providerUserId = some (k, o) ∧ o.userId = userId) ∨
    ∃ a written s', Performs (.committing profile userId written) a m ∧ m.before.shared.after written = .ok s'

structure Links (cfg : Config) (h : Past) (s : AccountStore) : Prop where
  unique : ∀ k k' o o', s.oauthAccounts.lookup k = some o → s.oauthAccounts.lookup k' = some o' →
    o.providerUserId = o'.providerUserId → o.userId = o'.userId
  vouched : ∀ k o, s.oauthAccounts.lookup k = some o → ∃ m ∈ h, ∃ profile, SignsIn cfg profile o.userId m ∧
    profile.providerUserId = o.providerUserId ∧ profile.emailVerified = true ∧ HasEmail s o.userId (cfg.normalized profile.email)
  kept : ∀ m ∈ h, ∀ profile userId, SignsIn cfg profile userId m →
    ∃ k o, s.oauthAccounts.lookup k = some o ∧ o.providerUserId = profile.providerUserId ∧ o.userId = userId

theorem SignsIn.unique {profile profile' : GoogleUserProfile} {userId userId' : Uuid} (hi : SignsIn cfg profile userId m)
    (hi' : SignsIn cfg profile' userId' m) : profile = profile' ∧ userId = userId' := by
  rcases hi with ⟨a, k, o, hp, -, ho, rfl⟩ | ⟨a, written, s₁, hp, -⟩ <;>
    rcases hi' with ⟨a', k', o', hp', -, ho', rfl⟩ | ⟨a', written', s₂, hp', -⟩ <;>
    obtain ⟨ht, rfl⟩ := hp.unique hp' <;> cases ht
  · cases ho.symm.trans ho'
    exact ⟨rfl, rfl⟩
  · exact ⟨rfl, rfl⟩

theorem SignsIn.not_idle {profile : GoogleUserProfile} {userId : Uuid} (hi : SignsIn cfg profile userId m) : ¬ Idle m := by
  rcases hi with ⟨a, _, _, hp, -⟩ | ⟨a, _, _, hp, -⟩ <;> exact fun hidle => hidle _ _ hp

/-- The rows stay as they are. -/
theorem Links.keep (hl : Links cfg h s) (hkeeps : KeepsEmails s s') (hsame : s'.oauthAccounts = s.oauthAccounts)
    (hm : ∀ profile userId, SignsIn cfg profile userId m →
      ∃ k o, s.oauthAccounts.lookup k = some o ∧ o.providerUserId = profile.providerUserId ∧ o.userId = userId) :
    Links cfg (h ++ [m]) s' := by
  refine ⟨?_, fun k o ho => ?_, fun m' hm' profile userId hi => ?_⟩
  · rw [hsame]
    exact hl.unique
  · rw [hsame] at ho
    obtain ⟨m', hm', profile, hi, hp, hv, he⟩ := hl.vouched k o ho
    exact ⟨m', List.mem_append_left _ hm', profile, hi, hp, hv, hkeeps _ _ he⟩
  · rw [hsame]
    rcases List.mem_append.1 hm' with hm' | hm'
    · exact hl.kept m' hm' profile userId hi
    · obtain rfl := List.mem_singleton.1 hm'
      exact hm profile userId hi

/-- A row for a Google account that has none. -/
theorem Links.add (hl : Links cfg h s) (hkeeps : KeepsEmails s s') {profile : GoogleUserProfile} {userId : Uuid}
    (hfree : s.oauthAccounts.lookup id = none) (hnone : s.linked profile.providerUserId = none)
    (hs' : s'.oauthAccounts = s.oauthAccounts.insert id ⟨userId, profile.providerUserId⟩) (hi : SignsIn cfg profile userId m)
    (hverified : profile.emailVerified = true) (hemail : HasEmail s' userId (cfg.normalized profile.email)) :
    Links cfg (h ++ [m]) s' := by
  have hself : s'.oauthAccounts.lookup id = some ⟨userId, profile.providerUserId⟩ := by rw [hs', AList.lookup_insert]
  have hother : ∀ {k}, k ≠ id → s'.oauthAccounts.lookup k = s.oauthAccounts.lookup k := fun hk => by rw [hs', AList.lookup_insert_ne hk]
  have hnew : ∀ {k o}, s.oauthAccounts.lookup k = some o → o.providerUserId ≠ profile.providerUserId := by
    intro k o ho he
    have hfound := AList.find_eq_none.1 hnone k o ho
    simp [he] at hfound
  refine ⟨fun k k' o o' ho ho' he => ?_, fun k o ho => ?_, fun m' hm' profile' userId' hi' => ?_⟩
  · by_cases hk : k = id <;> by_cases hk' : k' = id
    · rw [hk] at ho
      rw [hk', ho] at ho'
      rw [Option.some.inj ho']
    · subst hk
      cases Option.some.inj (hself.symm.trans ho)
      exact absurd he.symm (hnew ((hother hk').symm.trans ho'))
    · subst hk'
      cases Option.some.inj (hself.symm.trans ho')
      exact absurd he (hnew ((hother hk).symm.trans ho))
    · exact hl.unique k k' o o' ((hother hk).symm.trans ho) ((hother hk').symm.trans ho') he
  · by_cases hk : k = id
    · subst hk
      cases Option.some.inj (hself.symm.trans ho)
      exact ⟨m, List.mem_append_right _ List.mem_cons_self, profile, hi, rfl, hverified, hemail⟩
    · obtain ⟨m', hm', profile', hi', hp, hv, he⟩ := hl.vouched k o ((hother hk).symm.trans ho)
      exact ⟨m', List.mem_append_left _ hm', profile', hi', hp, hv, hkeeps _ _ he⟩
  · rcases List.mem_append.1 hm' with hm' | hm'
    · obtain ⟨k, o, ho, hp, hu⟩ := hl.kept m' hm' profile' userId' hi'
      have hk : k ≠ id := fun hk => by cases hfree.symm.trans (hk ▸ ho)
      exact ⟨k, o, (hother hk).trans ho, hp, hu⟩
    · obtain rfl := List.mem_singleton.1 hm'
      obtain ⟨rfl, rfl⟩ := hi.unique hi'
      exact ⟨id, _, hself, rfl, rfl⟩

theorem Session.turn_oauthAccounts (t : Session) (ht : ∀ profile userId written, t ≠ .committing profile userId written) :
    (t.turn cfg customerRole a s).1.oauthAccounts = s.oauthAccounts := by
  have hinsert : ∀ {id user s'}, insertUser s id user = .ok s' → s'.oauthAccounts = s.oauthAccounts := by
    intro id user s' hins
    obtain ⟨-, -, rfl⟩ := insertUser_ok hins
    rfl
  cases t with
  | committing profile userId written => exact absurd rfl (ht profile userId written)
  | inserting user =>
    unfold Session.turn
    dsimp only
    cases hins : insertUser s a.id user with
    | error e => rfl
    | ok s₁ => exact hinsert hins
  | updating id user reloaded reply =>
    unfold Session.turn saveUser
    dsimp only
    cases reloaded with
    | some reloaded => rfl
    | none =>
      dsimp only
      cases hins : insertUser s id user with
      | error e => rfl
      | ok s₁ => exact hinsert hins
  | issuing id email reply =>
    unfold Session.turn
    dsimp only
    cases hins : insertRecord s a.id ⟨id, cfg.hashActionToken (.text a.text), a.now + 15 * 60 * 1000, none⟩ with
    | error e => rfl
    | ok s₁ =>
      obtain rfl := insertRecord_ok hins
      rfl
  | _ =>
    unfold Session.turn
    dsimp only [writes]
    repeat' split
    all_goals rfl

/-- **The commit of a sign-in keeps the links**: the account had none. -/
theorem links_commit (customerRole : Option ℕ) {profile : GoogleUserProfile} {userId : Uuid} {written : List AccountWrite}
    (hs : Sound cfg start h s) (ht : (Session.committing profile userId written).Knows cfg start h s) (hl : Links cfg h s)
    (hbefore : m.before.shared = s)
    (hm : Performs (.committing profile userId written) a m) :
    Links cfg (h ++ [m]) ((Session.committing profile userId written).turn cfg customerRole a s).1 := by
  unfold Session.turn
  dsimp only
  cases hok : s.after written with
  | error e =>
    refine hl.keep (fun _ _ he => he) rfl fun profile' userId' hi => ?_
    rcases hi with ⟨a', _, _, hp, -⟩ | ⟨a', written', s', hp, hok'⟩
    · cases (hm.unique hp).1
    · cases (hm.unique hp).1
      rw [hbefore, hok] at hok'
      cases hok'
  | ok s' =>
    obtain ⟨hkeeps, -, hemail, k, hnone, hfree, hs'⟩ := sound_commit (m := m) hs ht hok
    exact hl.add hkeeps hfree hnone hs' (.inr ⟨a, written, s', hm, hbefore ▸ hok⟩) ht.1.1 hemail

/-- A sign-in that reads a link is for the user of the row. -/
theorem SignsIn.row {profile : GoogleUserProfile} {userId : Uuid} (hi : SignsIn cfg profile userId m)
    (hno : ∀ profile userId written, ¬ Performs (.committing profile userId written) a m) (hm : ∃ t, Performs t a m)
    (hbefore : m.before.shared = s) : ∃ k o, s.oauthAccounts.lookup k = some o ∧ o.providerUserId = profile.providerUserId ∧
      o.userId = userId := by
  rcases hi with ⟨a', k, o, hp, -, hlinked, rfl⟩ | ⟨a', written, s', hp, -⟩
  · obtain ⟨ho, he⟩ := AList.find_some (hbefore ▸ hlinked)
    exact ⟨k, o, ho, beq_iff_eq.1 he, rfl⟩
  · obtain ⟨t, ht⟩ := hm
    obtain ⟨rfl, rfl⟩ := ht.unique hp
    exact absurd hp (hno _ _ _)

/-! ## Every run -/

theorem accounts_holds : Holds (accounts cfg customerRole) (fun h s => Sound cfg start h s ∧ Links cfg h s)
    (fun h s t => t.Knows cfg start h s) KeepsEmails where
  refl _ _ _ he := he
  stable _ _ _ _ _ hk ht := ht.stable hk
  mono h m s hidle hI := ⟨hI.1.mono, hI.2.keep (fun _ _ he => he) rfl fun profile userId hi => (hi.not_idle hidle).elim⟩
  start h s t ht := by
    cases t with
    | registering | verifying | resending | signingIn | changingPassword => trivial
    | _ => exact ht.elim
  broken _ _ := trivial
  turn h m s t a hI ht hbefore hm := by
    obtain ⟨hkeeps, hsound, hnext⟩ : _ ∧ _ ∧ (t.turn cfg customerRole a s).2.Knows cfg start (h ++ [m]) _ := Session.turn_sound hI.1 ht hm
    refine ⟨hkeeps, ⟨hsound, ?_⟩, hnext⟩
    by_cases hcommit : ∃ profile userId written, t = .committing profile userId written
    · obtain ⟨profile, userId, written, rfl⟩ := hcommit
      exact links_commit customerRole hI.1 ht hI.2 hbefore hm
    · refine hI.2.keep hkeeps (Session.turn_oauthAccounts t fun profile userId written he => hcommit ⟨_, _, _, he⟩) fun profile userId hi => ?_
      exact hi.row (fun _ _ _ hp => hcommit ⟨_, _, _, (hm.unique hp).1⟩) ⟨t, hm⟩ hbefore
  others h m s s' hidle hI ho := by
    obtain ⟨hkeeps, hsound⟩ := sound_others (m := m) hI.1 ho
    exact ⟨hkeeps, hsound, hI.2.keep hkeeps ho.2.1 fun profile userId hi => (hi.not_idle hidle).elim⟩

/-- A first database: each user has an address of their own, and there is no link yet, neither in a mail nor to Google. -/
structure Fresh (start : AccountStore) : Prop where
  unique : ∀ id id' u u', start.users.lookup id = some u → start.users.lookup id' = some u' → u.email = u'.email → id = id'
  verifications : start.verifications = ∅
  oauthAccounts : start.oauthAccounts = ∅

theorem Fresh.sound (hfresh : Fresh start) : Sound cfg start [] start ∧ Links cfg [] start := by
  have hnone : ∀ {β : Type} {t : Table Uuid β} {k : Uuid} {v : β}, t = ∅ → t.lookup k ≠ some v := by
    rintro β t k v rfl hv
    cases (AList.lookup_empty k).symm.trans hv
  exact ⟨⟨fun id u hu hv => .inr (.inr (.inr ⟨id, u, hu, rfl, hv⟩)), hfresh.unique, fun _ _ hr => absurd hr (hnone hfresh.verifications)⟩,
    ⟨fun _ _ _ _ ho => absurd ho (hnone hfresh.oauthAccounts), fun _ _ ho => absurd ho (hnone hfresh.oauthAccounts),
      fun m hm => by cases hm⟩⟩

/-- **Who counts as confirmed has confirmed**: by a link that was sent to this very address and presented in time, through Google,
because none has to, or from the start; and nobody else has the address. -/
theorem verified_confirmed {moves : Past} {w : World AccountStore Session} (hfresh : Fresh start)
    (run : Run (Step (accounts cfg customerRole)) ⟨start, []⟩ moves w) (hu : w.shared.users.lookup id = some u)
    (hverified : u.emailVerifiedAt ≠ none) :
    Confirmed cfg start moves u.email ∧ ∀ id' u', w.shared.users.lookup id' = some u' → u'.email = u.email → id' = id := by
  obtain ⟨⟨hsound, -⟩, -⟩ := accounts_holds.run hfresh.sound run
  exact ⟨hsound.confirmed id u hu hverified, fun id' u' hu' he => hsound.unique id' id u' u hu' hu he⟩

/-- **A Google account is one user**, whom it was first linked to for the address that Google vouched for. -/
theorem google_same_user {moves : Past} {w : World AccountStore Session} (hfresh : Fresh start)
    (run : Run (Step (accounts cfg customerRole)) ⟨start, []⟩ moves w)
    {m₁ m₂ : Move (World AccountStore Session) (Label Session Outside)} (hm₁ : m₁ ∈ moves) (hm₂ : m₂ ∈ moves)
    {profile₁ profile₂ : GoogleUserProfile} {userId₁ userId₂ : Uuid} (hi₁ : SignsIn cfg profile₁ userId₁ m₁)
    (hi₂ : SignsIn cfg profile₂ userId₂ m₂) (hsame : profile₁.providerUserId = profile₂.providerUserId) :
    userId₁ = userId₂ ∧ ∃ m ∈ moves, ∃ profile, SignsIn cfg profile userId₁ m ∧
      profile.providerUserId = profile₁.providerUserId ∧ profile.emailVerified = true ∧
      HasEmail w.shared userId₁ (cfg.normalized profile.email) := by
  obtain ⟨⟨-, hlinks⟩, -⟩ := accounts_holds.run hfresh.sound run
  obtain ⟨k₁, o₁, ho₁, hp₁, rfl⟩ := hlinks.kept m₁ hm₁ profile₁ userId₁ hi₁
  obtain ⟨k₂, o₂, ho₂, hp₂, rfl⟩ := hlinks.kept m₂ hm₂ profile₂ userId₂ hi₂
  refine ⟨hlinks.unique k₁ k₂ o₁ o₂ ho₁ ho₂ (hp₁.trans (hsame.trans hp₂.symm)), ?_⟩
  obtain ⟨m, hm, profile, hi, hp, hv, he⟩ := hlinks.vouched k₁ o₁ ho₁
  exact ⟨m, hm, profile, hi, hp.trans hp₁, hv, he⟩

end

/-! ## Two runs -/

def mailConfig : Config where
  jwtSecret := "secret"
  refreshSecret := "refresh_secret"
  toLowerCase s := String.ofList (s.toList.map Char.toLower)
  hashActionToken
    | .text s => s
    | .jwt secret _ => secret
  compare password hash := password == hash
  emailVerification := .ok true
  failClosed := true

def seededUser : User where
  email := "customer@balii.com"
  passwordHash := some "123456"
  fullName := "Demo Customer"
  phone := none
  avatarUrl := none
  roleId := some 3
  isActive := true
  emailVerifiedAt := some 0

/-- The database after its seeds. -/
def seededStore : AccountStore := ⟨AList.insert 1 seededUser ∅, ∅, ∅⟩

theorem seededStore_fresh : Fresh seededStore := by
  have honly : ∀ id u, seededStore.users.lookup id = some u → id = 1 := by
    intro id u hu
    by_contra hid
    exact absurd ((AList.lookup_insert_ne hid).symm.trans hu) (by simp)
  exact ⟨fun id id' u u' hu hu' _ => (honly id u hu).trans (honly id' u' hu').symm, rfl, rfl⟩

def sampleRegistration : RegisterDto := ⟨"Mai@balii.vn", "123456", "Mai", none⟩

def outside (id : Uuid) (text : String) (now : ℕ) : Outside := ⟨id, text, now⟩

abbrev sampleAccounts : System AccountStore Session Outside := accounts mailConfig (some 3)

theorem sampleAccounts_starts (t : Session) (ht : t.begins) : sampleAccounts.starts t := ht

/-- Registered at 1000; the link is opened a quarter of an hour later, to the millisecond. -/
theorem sampleRegistration_confirmed : ∃ moves w u, Run (Step sampleAccounts) ⟨seededStore, []⟩ moves w ∧
    w.shared.users.lookup 2 = some u ∧ u.email = "mai@balii.vn" ∧ u.emailVerifiedAt = some 901001 ∧
      Confirmed mailConfig seededStore moves u.email ∧ ∀ id' u', w.shared.users.lookup id' = some u' → u'.email = u.email → id' = 2 := by
  have run : Run (Step sampleAccounts) ⟨seededStore, []⟩ [] ⟨seededStore, []⟩ := .start
  have run := run.step (.spawn (sampleAccounts_starts (.registering sampleRegistration) trivial))
  have run := run.step (.turn (i := 0) (outside 0 "" 1000) rfl)
  have run := run.step (.turn (i := 0) (outside 0 "hash" 1000) rfl)
  have run := run.step (.turn (i := 0) (outside 2 "" 1000) rfl)
  have run := run.step (.turn (i := 0) (outside 3 "token" 1000) rfl)
  have run := run.step (.spawn (sampleAccounts_starts (.verifying "token") trivial))
  have run := run.step (.turn (i := 1) (outside 0 "" 901000) rfl)
  have run := run.step (.turn (i := 1) (outside 0 "" 901001) rfl)
  exact ⟨_, _, _, run, rfl, rfl, rfl, verified_confirmed seededStore_fresh run rfl (by decide)⟩

def sampleProfile (email : String) : GoogleUserProfile := ⟨"1097", email, true, "Mai", none⟩

/-- The address of the account has changed at Google. -/
def oldProfile : GoogleUserProfile := sampleProfile "mai@balii.vn"

def newProfile : GoogleUserProfile := sampleProfile "mai@gmail.com"

def firstUser (profile : GoogleUserProfile) : User := googleUser profile profile.email 3 1001

def firstChanges (profile : GoogleUserProfile) (userId linkId : Uuid) : List AccountWrite :=
  [.newUser userId (firstUser profile), .newLink linkId ⟨userId, "1097"⟩]

def linkedStore : AccountStore :=
  ⟨AList.insert 2 (firstUser oldProfile) seededStore.users, ∅, AList.insert 4 ⟨2, "1097"⟩ ∅⟩

/-- The turn of a thread, to a world that is written out. -/
theorem step_turn {w w' : World AccountStore Session} {t : Session} (i : ℕ) (a : Outside) (ht : w.threads[i]? = some t)
    (hw : ⟨(sampleAccounts.turn t a w.shared).1, w.threads.set i (sampleAccounts.turn t a w.shared).2⟩ = w') :
    Step sampleAccounts w (.turn i a) w' :=
  hw ▸ .turn a ht

def Reached (w : World AccountStore Session) : Prop := ∃ moves, Run (Step sampleAccounts) ⟨seededStore, []⟩ moves w

theorem Reached.step {w w' : World AccountStore Session} {label : Label Session Outside} (h : Reached w)
    (hs : Step sampleAccounts w label w') : Reached w' := by
  obtain ⟨moves, run⟩ := h
  exact ⟨_, run.step hs⟩

/-- Two first sign-ins with the same account, both about to commit. -/
def racing : World AccountStore Session :=
  ⟨seededStore, [.committing oldProfile 2 (firstChanges oldProfile 2 4), .committing newProfile 3 (firstChanges newProfile 3 5)]⟩

/-- The first has committed. -/
def decided (other : Session) (more : List Session) : World AccountStore Session := ⟨linkedStore, .loading 2 :: other :: more⟩

theorem racing_reached : Reached racing := by
  have h : Reached ⟨seededStore, [.signingIn oldProfile]⟩ := ⟨_, .step .start (.spawn (sampleAccounts_starts _ trivial))⟩
  have h : Reached ⟨seededStore, [.signingIn oldProfile, .signingIn newProfile]⟩ := h.step (.spawn (sampleAccounts_starts _ trivial))
  have h : Reached ⟨seededStore, [.finding oldProfile, .signingIn newProfile]⟩ := h.step (step_turn 0 (outside 0 "" 1000) rfl rfl)
  have h : Reached ⟨seededStore, [.finding oldProfile, .finding newProfile]⟩ := h.step (step_turn 1 (outside 0 "" 1000) rfl rfl)
  have h : Reached ⟨seededStore, [.creating oldProfile (firstUser oldProfile), .finding newProfile]⟩ :=
    h.step (step_turn 0 (outside 0 "" 1001) rfl rfl)
  have h : Reached ⟨seededStore, [.creating oldProfile (firstUser oldProfile), .creating newProfile (firstUser newProfile)]⟩ :=
    h.step (step_turn 1 (outside 0 "" 1001) rfl rfl)
  have h : Reached ⟨seededStore, [.linking oldProfile 2 [.newUser 2 (firstUser oldProfile)],
      .creating newProfile (firstUser newProfile)]⟩ := h.step (step_turn 0 (outside 2 "" 1002) rfl rfl)
  have h : Reached ⟨seededStore, [.linking oldProfile 2 [.newUser 2 (firstUser oldProfile)],
      .linking newProfile 3 [.newUser 3 (firstUser newProfile)]]⟩ := h.step (step_turn 1 (outside 3 "" 1002) rfl rfl)
  have h : Reached ⟨seededStore, [.committing oldProfile 2 (firstChanges oldProfile 2 4),
      .linking newProfile 3 [.newUser 3 (firstUser newProfile)]]⟩ := h.step (step_turn 0 (outside 4 "" 1003) rfl rfl)
  exact h.step (step_turn 1 (outside 5 "" 1003) rfl rfl)

/-- The second to commit finds the account linked, and tried again it signs in the user of the first. -/
theorem movedProfile_sameUser : ∃ moves w m₁ m₂, Run (Step sampleAccounts) ⟨seededStore, []⟩ moves w ∧ m₁ ∈ moves ∧ m₂ ∈ moves ∧
    w = decided (.ended (.error duplicate)) [.loading 2] ∧ SignsIn mailConfig oldProfile 2 m₁ ∧
      SignsIn mailConfig newProfile 2 m₂ ∧ ∃ m ∈ moves, ∃ profile, SignsIn mailConfig profile 2 m ∧ profile.providerUserId = "1097" ∧
        profile.emailVerified = true ∧ HasEmail w.shared 2 (mailConfig.normalized profile.email) := by
  obtain ⟨moves, run⟩ := racing_reached
  have hcommit : Step sampleAccounts racing (.turn 0 (outside 0 "" 1004))
      (decided (.committing newProfile 3 (firstChanges newProfile 3 5)) []) := step_turn 0 _ rfl rfl
  have hfails : Step sampleAccounts (decided (.committing newProfile 3 (firstChanges newProfile 3 5)) []) (.turn 1 (outside 0 "" 1005))
      (decided (.ended (.error duplicate)) []) := step_turn 1 _ rfl rfl
  have hagain : Step sampleAccounts (decided (.ended (.error duplicate)) []) (.spawn (.signingIn newProfile))
      (decided (.ended (.error duplicate)) [.signingIn newProfile]) := .spawn (sampleAccounts_starts _ trivial)
  have hread : Step sampleAccounts (decided (.ended (.error duplicate)) [.signingIn newProfile]) (.turn 2 (outside 0 "" 2000))
      (decided (.ended (.error duplicate)) [.loading 2]) := step_turn 2 _ rfl rfl
  have run := (((run.step hcommit).step hfails).step hagain).step hread
  have hlast : ∀ {h : Past} {m : Move (World AccountStore Session) (Label Session Outside)}, m ∈ h ++ [m] :=
    List.mem_append_right _ List.mem_cons_self
  have hfirst : ∀ {h : Past} {m a b c : Move (World AccountStore Session) (Label Session Outside)},
      m ∈ (((h ++ [m]) ++ [a]) ++ [b]) ++ [c] := List.mem_append_left _ (List.mem_append_left _ (List.mem_append_left _ hlast))
  have hone : ∀ w', SignsIn mailConfig oldProfile 2 ⟨racing, .turn 0 (outside 0 "" 1004), w'⟩ := fun _ => .inr ⟨_, _, _, ⟨0, rfl, .inl rfl⟩, rfl⟩
  have hother : ∀ w', SignsIn mailConfig newProfile 2
      ⟨decided (.ended (.error duplicate)) [.signingIn newProfile], .turn 2 (outside 0 "" 2000), w'⟩ := fun _ =>
    .inl ⟨_, _, _, ⟨2, rfl, .inl rfl⟩, by decide, rfl, rfl⟩
  exact ⟨_, _, _, _, run, hfirst, hlast, rfl, hone _, hother _,
    (google_same_user seededStore_fresh run hfirst hlast (hone _) (hother _) rfl).2⟩

end Balii.Identity
