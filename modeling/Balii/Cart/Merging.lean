import Balii.Cart.Calculation
import Balii.Cart.Logs
/-!
# Merging — what becomes of both carts when a guest logs in

The merge deletes the guest's cart before the cart of the user is calculated.  All that fails before leaves both carts as they were;
a calculation that fails afterwards leaves the user's, and the guest's is lost.
-/
namespace Balii.Carts

open Rowdb Rowdb.Atomic

/-! ## Units -/

/-- How many units of a variant there are. -/
def unitsIn (v : String) (x : Lines) : ℕ := ((linesFor v x).map Prod.snd).sum

theorem unitsIn_cons (v : String) (line : String × ℕ) (x : Lines) :
    unitsIn v (line :: x) = (if line.1 = v then line.2 else 0) + unitsIn v x := by
  unfold unitsIn linesFor
  rw [List.filter_cons]
  by_cases h : line.1 = v
  · simp [h]
  · simp [h]

theorem unitsIn_changeQuantity {v id : String} {quantity : ℕ} {x : Lines} (h : x.any (fun line => line.1 == id) = true) :
    unitsIn v (changeQuantity id (· + quantity) x) = unitsIn v x + if id = v then quantity else 0 := by
  induction x with
  | nil => cases h
  | cons line rest ih =>
    unfold changeQuantity
    by_cases hline : line.1 = id
    · rw [if_pos (by simp [hline]), unitsIn_cons, unitsIn_cons]
      subst hline
      dsimp only
      split <;> omega
    · have hrest : rest.any (fun line => line.1 == id) = true := by simpa [hline] using h
      rw [if_neg (by simp [hline]), unitsIn_cons, unitsIn_cons, ih hrest]
      omega

theorem unitsIn_addLine (v id : String) (quantity : ℕ) (x : Lines) :
    unitsIn v (addLine id id quantity x) = unitsIn v x + if id = v then quantity else 0 := by
  unfold addLine
  split
  · rename_i h
    exact unitsIn_changeQuantity h
  · unfold unitsIn linesFor
    by_cases hid : id = v
    · simp [hid]
    · simp [hid]

/-- **A merge adds the units of both.** -/
theorem unitsIn_mergeLines (v : String) (x guest : Lines) : unitsIn v (mergeLines x guest) = unitsIn v x + unitsIn v guest := by
  induction guest generalizing x with
  | nil => rfl
  | cons line rest ih =>
    rw [mergeLines, ih, unitsIn_addLine, unitsIn_cons]
    omega

/-! ## Two locks -/

section Locks
variable {cfg : Config} {answers : ℕ → Answer} {s : State} {key k₁ k₂ : String} {α : Type} {operation : Procedure α}

/-- Under a lock that another call has, nothing is done. -/
theorem play_withCartLock_held (cfg : Config) (answers : ℕ → Answer) (operation : Procedure α)
    (h : (s.held (lockKey key)).isSome = true) :
    (∃ e, (play (A := carts cfg) (withCartLock key operation) answers s).result = .error e) ∧
      (play (A := carts cfg) (withCartLock key operation) answers s).state.carts = s.carts := by
  have hheld : ({ s with nextToken := s.nextToken + 1 } : State).held (lockKey key) = s.held (lockKey key) := rfl
  unfold withCartLock
  rw [play_bind, play_act s.nextToken { s with nextToken := s.nextToken + 1 } rfl, andThen_ok, play_bind,
    play_acquire_held (by rw [hheld]; exact h), andThen_ok, play_bind, play_ensure, if_neg Bool.false_ne_true, andThen_error]
  exact ⟨⟨_, rfl⟩, rfl⟩

theorem lockKey_inj (h : lockKey k₁ = lockKey k₂) : k₁ = k₂ := by
  have hlist := congrArg String.toList h
  unfold lockKey at hlist
  rw [String.toList_append, String.toList_append] at hlist
  exact String.toList_inj.1 (List.append_cancel_left hlist)

theorem held_locked (h : k₁ ≠ k₂) : (s.locked k₁).held (lockKey k₂) = s.held (lockKey k₂) := by
  unfold State.held State.locked
  rw [AList.lookup_insert_ne fun heq => h (lockKey_inj heq).symm]

theorem held_locked_self (s : State) (key : String) : ((s.locked key).held (lockKey key)).isSome = true := by
  unfold State.held State.locked
  rw [AList.lookup_insert]
  have hlasts : s.now < s.now + lockTtlMs := Nat.lt_add_of_pos_right (by decide)
  simp [hlasts]

/-- **Under two locks**: the operation is done if both are free and they are two. -/
theorem play_withCartLocks (cfg : Config) (answers : ℕ → Answer) (s : State) (k₁ k₂ : String) (operation : Procedure α) :
    (k₁ ≠ k₂ ∧ s.held (lockKey k₁) = none ∧ s.held (lockKey k₂) = none ∧
      (play (A := carts cfg) (withCartLock k₁ (withCartLock k₂ operation)) answers s).result =
        (play (A := carts cfg) operation answers ((s.locked k₁).locked k₂)).result ∧
      (play (A := carts cfg) (withCartLock k₁ (withCartLock k₂ operation)) answers s).state.carts =
        (play (A := carts cfg) operation answers ((s.locked k₁).locked k₂)).state.carts) ∨
    (¬ (k₁ ≠ k₂ ∧ s.held (lockKey k₁) = none ∧ s.held (lockKey k₂) = none) ∧
      (∃ e, (play (A := carts cfg) (withCartLock k₁ (withCartLock k₂ operation)) answers s).result = .error e) ∧
      (play (A := carts cfg) (withCartLock k₁ (withCartLock k₂ operation)) answers s).state.carts = s.carts) := by
  by_cases hfirst : s.held (lockKey k₁) = none
  · obtain ⟨hresult, hcarts⟩ := play_withCartLock cfg answers (withCartLock k₂ operation) hfirst
    rw [hresult, hcarts]
    by_cases hsecond : (s.locked k₁).held (lockKey k₂) = none
    · have happart : k₁ ≠ k₂ := by
        rintro rfl
        have := held_locked_self s k₁
        rw [hsecond] at this
        cases this
      obtain ⟨hresult', hcarts'⟩ := play_withCartLock cfg answers operation hsecond
      exact .inl ⟨happart, hfirst, held_locked happart ▸ hsecond, hresult', hcarts'⟩
    · obtain ⟨hfails, hsame⟩ := play_withCartLock_held cfg answers operation (Option.isSome_iff_ne_none.2 hsecond)
      exact .inr ⟨fun h => hsecond ((held_locked h.1).trans h.2.2), hfails, hsame⟩
  · obtain ⟨hfails, hsame⟩ := play_withCartLock_held cfg answers (withCartLock k₂ operation) (Option.isSome_iff_ne_none.2 hfirst)
    exact .inr ⟨fun h => hfirst h.2.1, hfails, hsame⟩

end Locks

/-! ## The merge -/

section Merge
variable {cfg : Config} {answers : ℕ → Answer} {s : State} {guestKey userKey : String} {items : List CartItem}

theorem checkStock_iff {shop : Shop} : checkStock shop items = .ok () ↔ ∀ item ∈ items, InStock shop item.variantId item.quantity := by
  induction items with
  | nil => exact iff_of_true rfl fun item hitem => (nomatch hitem)
  | cons item rest ih =>
    rw [List.forall_mem_cons, ← ih, ← validateVariantStock_iff]
    rw [checkStock, bind_eq_ok]
    exact ⟨fun ⟨variant, hvariant, h⟩ => ⟨⟨variant, hvariant⟩, h⟩, fun ⟨⟨variant, hvariant⟩, h⟩ => ⟨variant, hvariant, h⟩⟩

/-- The lines of both carts, checked. -/
def mergedItems (s : State) (guestKey userKey : String) (shop : Shop) : Except Err (List CartItem) := do
  let items ← mergeItems (s.rawCart userKey).items (s.rawCart guestKey).items
  checkStock shop items
  pure items

/-- The cart of the user, calculated with these lines. -/
def mergedCart (cfg : Config) (s : State) (userKey : String) (items : List CartItem) (answers : ℕ → Answer) : Except Err Cart :=
  calculated cfg { s.rawCart userKey with items := items, ownerKey := userKey } (fun n => answers (n + 1)) s.now

/-- The merge comes to its deletion, or it fails and has done nothing. -/
theorem play_mergeCarts (cfg : Config) (answers : ℕ → Answer) (s : State) (guestKey userKey : String) :
    match mergedItems s guestKey userKey (answers 0).shop with
    | .error e =>
      (play (A := carts cfg) (mergeCarts cfg guestKey userKey) answers s).result = .error e ∧
        (play (A := carts cfg) (mergeCarts cfg guestKey userKey) answers s).state.carts = s.carts
    | .ok items =>
      (play (A := carts cfg) (mergeCarts cfg guestKey userKey) answers s).result = mergedCart cfg s userKey items answers ∧
        (play (A := carts cfg) (mergeCarts cfg guestKey userKey) answers s).state.carts =
          saved (s.carts.erase guestKey) userKey (mergedCart cfg s userKey items answers) := by
  unfold mergedItems mergeCarts
  rw [play_bind, play_getRawCart, andThen_ok, play_bind, play_getRawCart, andThen_ok, play_bind, play_ofExcept]
  cases mergeItems (s.rawCart userKey).items (s.rawCart guestKey).items with
  | error e => exact ⟨rfl, rfl⟩
  | ok items =>
    rw [andThen_ok, play_bind, play_askShop, andThen_ok, play_bind, play_ofExcept]
    change match (do checkStock (answers 0).shop items; pure items : Except Err (List CartItem)) with
      | .error e => _
      | .ok items => _
    cases hstock : checkStock (answers 0).shop items with
    | error e => exact ⟨rfl, rfl⟩
    | ok u =>
      have hdel : perform (.del guestKey) s = .ok ((), s.drop guestKey) := rfl
      obtain ⟨answers', hsave⟩ := play_saveCart cfg userKey { s.rawCart userKey with items := items, ownerKey := userKey }
        (fun n => answers (n + 1)) (s.drop guestKey)
      rw [andThen_ok, play_bind, play_act () (s.drop guestKey) hdel, andThen_ok, hsave]
      exact ⟨rfl, carts_save ..⟩

theorem mergedItems_ok {shop : Shop} : mergedItems s guestKey userKey shop = .ok items ↔
    mergeItems (s.rawCart userKey).items (s.rawCart guestKey).items = .ok items ∧
      ∀ item ∈ items, InStock shop item.variantId item.quantity := by
  rw [← checkStock_iff]
  unfold mergedItems
  rw [bind_eq_ok]
  constructor
  · rintro ⟨_, hmerged, h⟩
    obtain ⟨_, hstock, h⟩ := bind_eq_ok.1 h
    cases h
    exact ⟨hmerged, hstock⟩
  · exact fun ⟨hmerged, hstock⟩ => ⟨items, hmerged, bind_eq_ok.2 ⟨(), hstock, rfl⟩⟩

theorem rawCart_lines (s : State) (key : String) : linesOf (s.rawCart key).items = s.lines key := by
  unfold State.rawCart State.lines
  cases s.carts.lookup key <;> rfl

end Merge

/-! ## Both carts -/

section Whole
variable (cfg : Config) (userId sessionId : String) (s : State) (answers : ℕ → Answer)

/-- What the merge has come to. -/
def mergePlayed : Played (carts cfg) Cart := play (A := carts cfg) (mergeGuestCartToUserCart cfg userId sessionId) answers s

/-- **The merge does all or nothing**: an error leaves both carts, and success puts the units of both into the one and deletes the
other. -/
structure MergesWhole : Prop where
  error : ∀ e, (mergePlayed cfg userId sessionId s answers).result = .error e → ∀ key ∈ [guestKey sessionId, userKey userId],
    (mergePlayed cfg userId sessionId s answers).state.carts.lookup key = s.carts.lookup key
  ok : ∀ cart, (mergePlayed cfg userId sessionId s answers).result = .ok cart →
    (mergePlayed cfg userId sessionId s answers).state.carts.lookup (guestKey sessionId) = none ∧
      ∀ v, unitsIn v ((mergePlayed cfg userId sessionId s answers).state.lines (userKey userId)) =
        unitsIn v (s.lines (userKey userId)) + unitsIn v (s.lines (guestKey sessionId))

/-- **The merge comes to its deletion**: the request is as it should be, both locks can be had, and the lines of both carts fit into
one and are in stock. -/
structure ReachesDeletion (items : List CartItem) : Prop where
  user : userId ≠ ""
  session : isUuid sessionId = true
  apart : guestKey sessionId ≠ userKey userId
  guestFree : s.held (lockKey (guestKey sessionId)) = none
  userFree : s.held (lockKey (userKey userId)) = none
  merged : mergeItems (s.rawCart (userKey userId)).items (s.rawCart (guestKey sessionId)).items = .ok items
  stock : ∀ item ∈ items, InStock (answers 0).shop item.variantId item.quantity

variable {cfg userId sessionId s answers}

/-- A request that is not as it should be is refused at once. -/
theorem mergePlayed_refused (h : ¬ (userId ≠ "" ∧ isUuid sessionId = true)) :
    (∃ e, (mergePlayed cfg userId sessionId s answers).result = .error e) ∧
      (mergePlayed cfg userId sessionId s answers).state.carts = s.carts := by
  unfold mergePlayed mergeGuestCartToUserCart
  by_cases huser : userId ≠ ""
  · rw [play_bind, play_ensure, if_pos huser, andThen_ok, play_bind, play_ensure]
    by_cases hsession : sessionId ≠ ""
    · rw [if_pos hsession, andThen_ok, play_bind, play_ensure, if_neg fun huuid => h ⟨huser, huuid⟩]
      exact ⟨⟨_, rfl⟩, rfl⟩
    · rw [if_neg hsession]
      exact ⟨⟨_, rfl⟩, rfl⟩
  · rw [play_bind, play_ensure, if_neg huser]
    exact ⟨⟨_, rfl⟩, rfl⟩

/-- Any other goes on to the locks, in the order of their names. -/
theorem mergePlayed_eq (huser : userId ≠ "") (hsession : isUuid sessionId = true) :
    ∃ k₁ k₂, (k₁ = guestKey sessionId ∧ k₂ = userKey userId ∨ k₁ = userKey userId ∧ k₂ = guestKey sessionId) ∧
      mergePlayed cfg userId sessionId s answers = play (A := carts cfg)
        (withCartLock k₁ (withCartLock k₂ (mergeCarts cfg (guestKey sessionId) (userKey userId)))) answers s := by
  have hsome : sessionId ≠ "" := by
    rintro rfl
    exact absurd hsession (by decide)
  unfold mergePlayed mergeGuestCartToUserCart
  rw [play_bind, play_ensure, if_pos huser, andThen_ok, play_bind, play_ensure, if_pos hsome, andThen_ok, play_bind, play_ensure,
    if_pos hsession, andThen_ok]
  change ∃ k₁ k₂, _ ∧ play (A := carts cfg) ((fun keys : String × String =>
    withCartLock keys.1 (withCartLock keys.2 (mergeCarts cfg (guestKey sessionId) (userKey userId))))
      (if userKey userId < guestKey sessionId then (userKey userId, guestKey sessionId) else (guestKey sessionId, userKey userId)))
      answers s = _
  by_cases horder : userKey userId < guestKey sessionId
  · refine ⟨userKey userId, guestKey sessionId, .inr ⟨rfl, rfl⟩, ?_⟩
    rw [if_pos horder]
  · refine ⟨guestKey sessionId, userKey userId, .inl ⟨rfl, rfl⟩, ?_⟩
    rw [if_neg horder]

/-- The merge either leaves all carts, with an error, or has come to its deletion. -/
theorem mergePlayed_cases (cfg : Config) (userId sessionId : String) (s : State) (answers : ℕ → Answer) :
    ((∀ items, ¬ ReachesDeletion userId sessionId s answers items) ∧
      (∃ e, (mergePlayed cfg userId sessionId s answers).result = .error e) ∧
      (mergePlayed cfg userId sessionId s answers).state.carts = s.carts) ∨
    ∃ items, ReachesDeletion userId sessionId s answers items ∧
      (mergePlayed cfg userId sessionId s answers).result = mergedCart cfg s (userKey userId) items answers ∧
      (mergePlayed cfg userId sessionId s answers).state.carts =
        saved (s.carts.erase (guestKey sessionId)) (userKey userId) (mergedCart cfg s (userKey userId) items answers) := by
  by_cases hrequest : userId ≠ "" ∧ isUuid sessionId = true
  · obtain ⟨k₁, k₂, hkeys, hplayed⟩ := @mergePlayed_eq cfg userId sessionId s answers hrequest.1 hrequest.2
    have hlocks : (k₁ ≠ k₂ ∧ s.held (lockKey k₁) = none ∧ s.held (lockKey k₂) = none) ↔ guestKey sessionId ≠ userKey userId ∧
        s.held (lockKey (guestKey sessionId)) = none ∧ s.held (lockKey (userKey userId)) = none := by
      rcases hkeys with ⟨rfl, rfl⟩ | ⟨rfl, rfl⟩
      · exact Iff.rfl
      · exact ⟨fun h => ⟨h.1.symm, h.2.2, h.2.1⟩, fun h => ⟨h.1.symm, h.2.2, h.2.1⟩⟩
    rw [hplayed]
    rcases play_withCartLocks cfg answers s k₁ k₂ (mergeCarts cfg (guestKey sessionId) (userKey userId)) with
      ⟨happart, hfirst, hsecond, hresult, hcarts⟩ | ⟨hlocked, hfails, hcarts⟩
    · obtain ⟨hdifferent, hguest, huser⟩ := hlocks.1 ⟨happart, hfirst, hsecond⟩
      rw [hresult, hcarts]
      have hmerge := play_mergeCarts cfg answers ((s.locked k₁).locked k₂) (guestKey sessionId) (userKey userId)
      have hsame : mergedItems ((s.locked k₁).locked k₂) (guestKey sessionId) (userKey userId) (answers 0).shop =
          mergedItems s (guestKey sessionId) (userKey userId) (answers 0).shop := rfl
      rw [hsame] at hmerge
      cases hitems : mergedItems s (guestKey sessionId) (userKey userId) (answers 0).shop with
      | error e =>
        rw [hitems] at hmerge
        refine .inl ⟨fun items h => ?_, ⟨e, hmerge.1⟩, hmerge.2⟩
        rw [mergedItems_ok.2 ⟨h.merged, h.stock⟩] at hitems
        cases hitems
      | ok items =>
        rw [hitems] at hmerge
        obtain ⟨hmerged, hstock⟩ := mergedItems_ok.1 hitems
        exact .inr ⟨items, ⟨hrequest.1, hrequest.2, hdifferent, hguest, huser, hmerged, hstock⟩, hmerge.1, hmerge.2⟩
    · exact .inl ⟨fun items h => hlocked (hlocks.2 ⟨h.apart, h.guestFree, h.userFree⟩), hfails, hcarts⟩
  · obtain ⟨hfails, hcarts⟩ := @mergePlayed_refused cfg userId sessionId s answers hrequest
    exact .inl ⟨fun items h => hrequest ⟨h.user, h.session⟩, hfails, hcarts⟩

/-- **The merge does all or nothing exactly when what it deletes for can be calculated**, or there was no cart of the guest. -/
theorem mergesWhole_iff : MergesWhole cfg userId sessionId s answers ↔
    ∀ items, ReachesDeletion userId sessionId s answers items →
      Calculable cfg items (fun n => answers (n + 1)) ∨ s.carts.lookup (guestKey sessionId) = none := by
  rcases mergePlayed_cases cfg userId sessionId s answers with ⟨hnever, ⟨e, hresult⟩, hcarts⟩ | ⟨items, hreaches, hresult, hcarts⟩
  · refine iff_of_true ⟨fun _ _ key _ => by rw [hcarts], fun cart h => ?_⟩ fun items h => absurd h (hnever items)
    rw [hresult] at h
    cases h
  have honly : ∀ items', ReachesDeletion userId sessionId s answers items' → items' = items := fun items' h =>
    Except.ok.inj (h.merged.symm.trans hreaches.merged)
  have hcalculated : (∃ cart, mergedCart cfg s (userKey userId) items answers = .ok cart) ↔
      Calculable cfg items (fun n => answers (n + 1)) := calculated_iff
  cases hmerged : mergedCart cfg s (userKey userId) items answers with
  | ok cart =>
    rw [hmerged] at hresult hcarts
    refine iff_of_true ⟨fun e h => ?_, fun cart' _ => ⟨?_, fun v => ?_⟩⟩ fun items' h => ?_
    · rw [hresult] at h
      cases h
    · rw [hcarts]
      exact (AList.lookup_insert_ne hreaches.apart).trans (AList.lookup_erase _ _)
    · have hlines : (mergePlayed cfg userId sessionId s answers).state.lines (userKey userId) = linesOf cart.items := by
        unfold State.lines
        rw [hcarts]
        change storedLines (((s.carts.erase (guestKey sessionId)).insert (userKey userId) cart).lookup (userKey userId)) = _
        rw [AList.lookup_insert]
        rfl
      rw [hlines, calculated_lines hmerged, linesOf_mergeItems hreaches.merged, rawCart_lines, rawCart_lines, unitsIn_mergeLines]
    · rw [honly items' h]
      exact .inl (hcalculated.1 ⟨cart, hmerged⟩)
  | error e =>
    rw [hmerged] at hresult hcarts
    have hfails : ¬ Calculable cfg items (fun n => answers (n + 1)) := by
      intro h
      obtain ⟨cart, hcart⟩ := hcalculated.2 h
      rw [hmerged] at hcart
      cases hcart
    constructor
    · intro h items' hitems'
      have hkept := h.error e hresult (guestKey sessionId) List.mem_cons_self
      rw [hcarts] at hkept
      exact .inr (hkept.symm.trans (AList.lookup_erase _ _))
    · intro h
      have hnone := (h items hreaches).resolve_left hfails
      refine ⟨fun e' _ key hkey => ?_, fun cart hcart => ?_⟩
      · rw [hcarts]
        by_cases hguest : key = guestKey sessionId
        · rw [hguest, hnone]
          exact AList.lookup_erase _ _
        · exact AList.lookup_erase_ne hguest
      · rw [hresult] at hcart
        cases hcart

end Whole

/-! ### A guest with a shirt -/

def sampleSession : String := "00000000-0000-4000-8000-000000000000"

/-- The guest has a shirt in the cart, and the user has no cart yet. -/
def guestShirt : State where
  carts := (∅ : Table String Cart).insert (guestKey sampleSession)
    ⟨guestKey sampleSession, [bought "shirt" 1 false], [], 0, 0, 0, 0, 0⟩
  expires := (∅ : Table String ℕ).insert (guestKey sampleSession) cartTtlMs
  locks := ∅
  nextToken := 0
  now := 0

/-- **The shirt is gone** when the socks that it earns have run out: the merge fails after it has deleted the guest's cart. -/
theorem guestShirt_lost : ¬ ∀ cfg userId sessionId s answers, MergesWhole cfg userId sessionId s answers := by
  intro h
  have hwhole := (h ⟨none⟩ "7" sampleSession guestShirt fun _ => outOfSocks).error
  have hfails : (mergePlayed ⟨none⟩ "7" sampleSession guestShirt fun _ => outOfSocks).result.isOk = false := by decide
  have hlost : ((mergePlayed ⟨none⟩ "7" sampleSession guestShirt fun _ => outOfSocks).state.carts.lookup
      (guestKey sampleSession)).isSome = false := by decide
  cases hresult : (mergePlayed ⟨none⟩ "7" sampleSession guestShirt fun _ => outOfSocks).result with
  | ok cart =>
    rw [hresult] at hfails
    cases hfails
  | error e =>
    rw [hwhole e hresult (guestKey sampleSession) List.mem_cons_self] at hlost
    exact absurd hlost (by decide)

end Balii.Carts
