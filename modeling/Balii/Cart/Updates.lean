import Balii.Cart.Logs
/-!
# Updates — no update of a cart is lost, as long as its lock serves

A cart is the result of its edits one after another (`Serial`), each made by the call that wrote the cart at that place.  This is so
wherever the lock serves and no cart is left alone for a week; a lease that ends before its holder has written lets another in, whose
update is then overwritten.
-/
namespace Balii.Carts

open Rowdb Rowdb.Atomic List

variable {cfg : Config}

/-- The edit that the call `call` makes where it writes a cart. -/
inductive Makes (τ : (carts cfg).Trace) (n i : ℕ) : Call → Op → Edit → Prop
  | getCart {owner key cart} (hkey : getCartKey owner = .ok key) : Makes τ n i (.getCart owner) (.set key cart) .keep
  | addItem {owner variantId quantity key cart} (hkey : getCartKey owner = .ok key) :
    Makes τ n i (.addItem owner variantId quantity) (.set key cart) (.add variantId quantity)
  | updateItem {owner variantId quantity key cart} (hkey : getCartKey owner = .ok key) :
    Makes τ n i (.updateItem owner variantId quantity) (.set key cart) (.set variantId quantity)
  | removeItem {owner variantId key cart} (hkey : getCartKey owner = .ok key) :
    Makes τ n i (.removeItem owner variantId) (.set key cart) (.remove variantId)
  | validateCart {owner key cart} (hkey : getCartKey owner = .ok key) : Makes τ n i (.validateCart owner) (.set key cart) .keep
  | snapshot {owner key cart} (hkey : getCartKey owner = .ok key) : Makes τ n i (.createOrder owner) (.set key cart) .keep
  | checkout {owner key} (hkey : getCartKey owner = .ok key) : Makes τ n i (.createOrder owner) (.del key) .clear
  | clearCart {owner expected key} (hkey : getCartKey owner = .ok key) : Makes τ n i (.clearCart owner expected) (.del key) .clear
  | mergedGuest {userId sessionId} : Makes τ n i (.mergeGuestCartToUserCart userId sessionId) (.del (guestKey sessionId)) .clear
  /-- The lines that the guest's cart had when it was deleted. -/
  | mergedUser {userId sessionId cart d b}
    (hguest : Does τ d i (.mergeGuestCartToUserCart userId sessionId) (.del (guestKey sessionId)) b) (hd : d < n) :
    Makes τ n i (.mergeGuestCartToUserCart userId sessionId) (.set (userKey userId) cart) (.merge (b.lines (guestKey sessionId)))

section Runs
variable (r : (carts cfg).Run fun _ => True)

/-- **A serial order**: up to the place `n` the cart is the result of the edits of the calls that have written it, in the order in
which they wrote. -/
structure Serial (key : String) (n : ℕ) (edits : List (ℕ × Edit)) : Prop where
  ordered : edits.Pairwise fun x y => x.1 < y.1
  made : ∀ x ∈ edits, x.1 < n ∧ ∃ i call op b, Does r.trace x.1 i call op b ∧ op.written = some key ∧ Makes r.trace x.1 i call op x.2
  all : ∀ m i, m < n → WritesAt r.trace m i key → ∃ e, (m, e) ∈ edits
  result : (r.state n).lines key = edits.foldl (fun x e => e.2.apply x) (r.init.lines key)

/-- **No update is lost**: each cart has its serial order at each place, every call that has succeeded has its place there, and no
call has two (a checkout, which saves the cart and then clears it, apart). -/
structure NoLostUpdate : Prop where
  serial : ∀ key n, ∃ edits, Serial r key n edits
  reflected : ∀ n i call reply, Returns r.trace n i call (.ok reply) → ∀ key ∈ call.edited,
    ∃ m op b, m < n ∧ Does r.trace m i call op b ∧ op.written = some key
  once : ∀ m n i call op op' b b' key, Does r.trace m i call op b → Does r.trace n i call op' b' → op.written = some key →
    op'.written = some key → (∀ owner, call ≠ .createOrder owner) → m = n

end Runs

/-! ## Each write is the edit of its call -/

section Steps
variable {r : (carts cfg).Run fun _ => True} {n m i : ℕ} {call : Call} {op : Op} {b : State} {key : String} {cart : Cart} {l : Log cfg}

theorem Regranted.holding (h : Regranted key l) : Holding key l := by
  obtain ⟨l₁, x, l₂, hl, _, hgrants, hkept⟩ := h
  exact ⟨l₁, x, l₂, hl, hgrants, hkept⟩

theorem Read.holding (h : Read key cart l) : Holding key l := by
  obtain ⟨l₁, y, l₂, rfl, hget, hholding, hkept, _⟩ := h
  refine hholding.append fun z hz => ?_
  rcases List.mem_cons.1 hz with rfl | hz
  · rw [hget]
    exact fun ⟨_, h⟩ => (nomatch h)
  · exact (hkept z hz).2

theorem Saved.holding {e : Edit} (h : Saved key cart e l) : Holding key l := by
  obtain ⟨read, hread, _⟩ := h
  exact hread.holding

theorem Saves.holding (h : Saves call l key cart) : Holding key l := by
  cases call with
  | getCart owner => exact h.2.holding
  | addItem owner variantId quantity => exact h.2.holding
  | updateItem owner variantId quantity => exact h.2.holding
  | removeItem owner variantId => exact h.2.holding
  | validateCart owner => exact h.2.holding
  | createOrder owner => exact h.2.holding
  | mergeGuestCartToUserCart userId sessionId =>
    obtain ⟨rfl, hsame, l₁, z, l₂, guestCart, userCart, _, _, _, hread, _⟩ := h
    by_cases heq : guestKey sessionId = userKey userId
    · exact (hsame heq).holding
    · exact (hread heq).1.holding
  | clearCart owner expected => exact h.elim
  | pass ms => exact h.elim

theorem Compares.holding {snapshot : Cart} (h : Compares key snapshot cart l) : Holding key l := by
  obtain ⟨l₁, z, l₂, y, l₃, rfl, _, hget, hholding, _, _, hclock, _⟩ := h
  exact hholding.append fun w hw => (quiet_cons (quiet_get hget) (quiet_of_clock hclock) w hw).not_releases key

theorem Deletes.holding (h : Deletes call l key) : Holding key l := by
  cases call with
  | clearCart owner expected => exact h.2.1
  | createOrder owner =>
    obtain ⟨_, snapshot, cart, hcompares, _⟩ := h
    exact hcompares.holding
  | mergeGuestCartToUserCart userId sessionId =>
    obtain ⟨_, _, ⟨guestCart, hread⟩, _⟩ := h
    exact hread.holding
  | _ => exact h.elim

/-- What a call has done before, and what it may do. -/
theorem allowed (hdoes : Does r.trace n i call op b) : ∃ l : Log cfg, LoggedTo r.trace n i call l ∧ Allowed call l op b :=
  (meets_all r.traced fun call => proc_logs call).1 n i call op b hdoes

/-- **Each cart is written under its lock.** -/
theorem locked (r : (carts cfg).Run fun _ => True) : Locked r.trace := by
  rintro n i key ⟨call, op, b, hdoes, hop⟩
  obtain ⟨l, hl, hq⟩ := allowed hdoes
  have hholding : Holding key l := by
    cases op with
    | set key' cart =>
      obtain rfl := Option.some.inj hop
      exact Saves.holding hq
    | del key' =>
      obtain rfl := Option.some.inj hop
      exact Deletes.holding hq
    | _ => cases hop
  obtain ⟨a, ha, hlt, _, hkeeps⟩ := hholding.grantedAt hl
  exact ⟨a, hlt, ha, hkeeps⟩

theorem lookup_later (b : State) (ms : ℕ) (key : String) :
    (b.later ms).carts.lookup key = if b.runsOut key ms = true then none else b.carts.lookup key := by
  have hlookup : (b.later ms).carts.lookup key = (b.carts.lookup key).filter fun _ => !b.runsOut key ms := AList.lookup_keep ..
  rw [hlookup]
  cases b.runsOut key ms <;> cases b.carts.lookup key <;> rfl

/-- An operation that does not change the cart leaves it. -/
theorem lookup_perform {b' : State} {x : op.Res} (h : perform op b = .ok (x, b')) (hop : ¬ Changes key op b) :
    b'.carts.lookup key = b.carts.lookup key := by
  cases op with
  | pass ms =>
    cases h
    exact (lookup_later b ms key).trans (if_neg fun hrunsOut => hop (.inr ⟨ms, rfl, hrunsOut⟩))
  | set key' cart =>
    cases h
    exact AList.lookup_insert_ne fun heq => hop (.inl (congrArg some heq.symm))
  | del key' =>
    cases h
    exact AList.lookup_erase_ne fun heq => hop (.inl (congrArg some heq.symm))
  | acquireLock key' token ttlMs =>
    simp only [perform] at h
    split at h <;> cases h <;> rfl
  | releaseLock key' token =>
    simp only [perform] at h
    split at h <;> cases h <;> rfl
  | _ =>
    cases h
    rfl

theorem lookup_between (hmn : m ≤ n) (h : ∀ k, m ≤ k → k < n → ¬ ChangesAt r.trace k key) :
    (r.state n).carts.lookup key = (r.state m).carts.lookup key := by
  refine same_between (f := fun s : State => s.carts.lookup key) r.lawful hmn fun k j call op b a b' hmk hkn hdoes hperf => ?_
  exact lookup_perform hperf fun hop => h k hmk hkn ⟨j, call, op, b, hdoes, hop⟩

theorem lookup_set (hdoes : Does r.trace n i call (.set key cart) b) : (r.state (n + 1)).carts.lookup key = some cart := by
  obtain ⟨_, a, hperf⟩ := hdoes.at r.lawful
  obtain ⟨_, hstate⟩ := Prod.mk.inj (Except.ok.inj hperf)
  unfold Run.state
  rw [← hstate]
  exact AList.lookup_insert _

theorem lookup_del (hdoes : Does r.trace n i call (.del key) b) : (r.state (n + 1)).carts.lookup key = none := by
  obtain ⟨_, a, hperf⟩ := hdoes.at r.lawful
  obtain ⟨_, hstate⟩ := Prod.mk.inj (Except.ok.inj hperf)
  unfold Run.state
  rw [← hstate]
  exact AList.lookup_erase _ _

theorem lookup_runsOut (hdoes : Does r.trace n i call op b) (h : RunsOut key op b) : (r.state (n + 1)).carts.lookup key = none := by
  obtain ⟨ms, rfl, hrunsOut⟩ := h
  obtain ⟨_, a, hperf⟩ := hdoes.at r.lawful
  obtain ⟨_, hstate⟩ := Prod.mk.inj (Except.ok.inj hperf)
  unfold Run.state
  rw [← hstate]
  exact (lookup_later b ms key).trans (if_pos hrunsOut)

theorem lines_set (hdoes : Does r.trace n i call (.set key cart) b) : (r.state (n + 1)).lines key = linesOf cart.items := by
  unfold State.lines
  rw [lookup_set hdoes]
  rfl

theorem lines_del (hdoes : Does r.trace n i call (.del key) b) : (r.state (n + 1)).lines key = [] := by
  unfold State.lines
  rw [lookup_del hdoes]
  rfl

/-- **No cart is left alone for a week.** -/
def Lasting (r : (carts cfg).Run fun _ => True) : Prop := ∀ key k, ¬ RunsOutAt r.trace k key

/-- **What was read under the lock is what is there when the call writes.** -/
theorem Read.lines_eq (hread : Read key cart l) (hserves : Undisputed r.trace) (hlasting : Lasting r) (hl : LoggedTo r.trace n i call l)
    (hwrites : WritesAt r.trace n i key) : (r.state n).lines key = linesOf cart.items := by
  obtain ⟨m, b, hget, hmn, hlines, hfree⟩ := hserves.unwritten (locked r) hl hread hwrites
  have hsame := lookup_between hmn.le fun k hmk hkn => not_changesAt (fun j => hfree k j hmk hkn) (hlasting key k)
  obtain ⟨rfl, _⟩ := hget.at r.lawful
  rw [← hlines]
  unfold State.lines
  rw [hsame]
  rfl

theorem Saved.lines_eq {e : Edit} (h : Saved key cart e l) (hserves : Undisputed r.trace) (hlasting : Lasting r)
    (hl : LoggedTo r.trace n i call l) (hwrites : WritesAt r.trace n i key) : linesOf cart.items = e.apply ((r.state n).lines key) := by
  obtain ⟨read, hread, hlines, _⟩ := h
  rw [hread.lines_eq hserves hlasting hl hwrites, hlines]

/-- The merge, whose guest cart was read and deleted before. -/
theorem Merged.lines_eq {userId sessionId : String} (h : Merged (guestKey sessionId) (userKey userId) cart l)
    (hserves : Undisputed r.trace) (hlasting : Lasting r) (hl : LoggedTo r.trace n i (.mergeGuestCartToUserCart userId sessionId) l)
    (hwrites : WritesAt r.trace n i (userKey userId)) : ∃ d b,
      Does r.trace d i (.mergeGuestCartToUserCart userId sessionId) (.del (guestKey sessionId)) b ∧ d < n ∧
        linesOf cart.items = mergeLines ((r.state n).lines (userKey userId)) (b.lines (guestKey sessionId)) := by
  obtain ⟨hsame, l₁, z, l₂, guestCart, userCart, rfl, hdel, hguest, huser, hlines⟩ := h
  have hz : z ∈ l₁ ++ z :: l₂ := List.mem_append_right _ List.mem_cons_self
  have hdeletes := hl.does hz
  have hne : guestKey sessionId ≠ userKey userId := fun heq => hserves.not_regranted hl hwrites (hsame heq)
  have hwrites' : WritesAt r.trace z.place i (guestKey sessionId) := ⟨_, z.op, z.before, hdeletes, by rw [hdel]; rfl⟩
  have hguestLines := hguest.lines_eq hserves hlasting hl.upTo hwrites'
  obtain ⟨hbefore, _⟩ := hdeletes.at r.lawful
  refine ⟨z.place, z.before, hdel ▸ hdeletes, hl.lt z hz, ?_⟩
  rw [(huser hne).1.lines_eq hserves hlasting hl hwrites, hbefore, hlines]
  exact congrArg (mergeLines _) hguestLines.symm

/-- **The step**: where the lock serves and the carts last, a call that writes a cart makes its edit of the cart as it is. -/
theorem edited (hserves : Undisputed r.trace) (hlasting : Lasting r) (hdoes : Does r.trace n i call op b) (hop : op.written = some key) :
    ∃ e, Makes r.trace n i call op e ∧ (r.state (n + 1)).lines key = e.apply ((r.state n).lines key) := by
  obtain ⟨l, hl, hq⟩ := allowed hdoes
  have hwrites : WritesAt r.trace n i key := ⟨call, op, b, hdoes, hop⟩
  cases op with
  | set key' cart =>
    obtain rfl := Option.some.inj hop
    rw [lines_set hdoes]
    cases call with
    | getCart owner => exact ⟨.keep, .getCart hq.1, hq.2.lines_eq hserves hlasting hl hwrites⟩
    | addItem owner variantId quantity => exact ⟨_, .addItem hq.1, hq.2.lines_eq hserves hlasting hl hwrites⟩
    | updateItem owner variantId quantity => exact ⟨_, .updateItem hq.1, hq.2.lines_eq hserves hlasting hl hwrites⟩
    | removeItem owner variantId => exact ⟨_, .removeItem hq.1, hq.2.lines_eq hserves hlasting hl hwrites⟩
    | validateCart owner => exact ⟨.keep, .validateCart hq.1, hq.2.lines_eq hserves hlasting hl hwrites⟩
    | createOrder owner => exact ⟨.keep, .snapshot hq.1, hq.2.lines_eq hserves hlasting hl hwrites⟩
    | mergeGuestCartToUserCart userId sessionId =>
      obtain ⟨rfl, hmerged⟩ := hq
      obtain ⟨d, b', hguest, hd, hlines⟩ := hmerged.lines_eq hserves hlasting hl hwrites
      exact ⟨_, .mergedUser hguest hd, hlines⟩
    | clearCart owner expected => exact hq.elim
    | pass ms => exact hq.elim
  | del key' =>
    obtain rfl := Option.some.inj hop
    rw [lines_del hdoes]
    cases call with
    | clearCart owner expected => exact ⟨.clear, .clearCart hq.1, rfl⟩
    | createOrder owner => exact ⟨.clear, .checkout hq.1, rfl⟩
    | mergeGuestCartToUserCart userId sessionId =>
      obtain ⟨rfl, _⟩ := hq
      exact ⟨.clear, .mergedGuest, rfl⟩
    | _ => exact hq.elim
  | _ => cases hop

/-- **The run**: where the lock serves and the carts last, each cart has its serial order at each place. -/
theorem exists_serial (hserves : Undisputed r.trace) (hlasting : Lasting r) (key : String) (n : ℕ) : ∃ edits, Serial r key n edits := by
  induction n with
  | zero =>
    refine ⟨[], .nil, fun x hx => (nomatch hx), fun m i hm => absurd hm (Nat.not_lt_zero m), ?_⟩
    rfl
  | succ n ih =>
    obtain ⟨edits, hserial⟩ := ih
    by_cases hn : ∃ i, WritesAt r.trace n i key
    · obtain ⟨i, call, op, b, hdoes, hop⟩ := hn
      obtain ⟨e, hmakes, hlines⟩ := edited hserves hlasting hdoes hop
      refine ⟨edits ++ [(n, e)], ?_, ?_, ?_, ?_⟩
      · refine List.pairwise_append.2 ⟨hserial.ordered, List.pairwise_singleton .., fun x hx y hy => ?_⟩
        obtain rfl := List.mem_singleton.1 hy
        exact (hserial.made x hx).1
      · intro x hx
        rcases List.mem_append.1 hx with hx | hx
        · obtain ⟨hlt, hmade⟩ := hserial.made x hx
          exact ⟨by omega, hmade⟩
        · obtain rfl := List.mem_singleton.1 hx
          exact ⟨Nat.lt_succ_self n, i, call, op, b, hdoes, hop, hmakes⟩
      · intro m j hm hwrites
        by_cases hmn : m = n
        · subst hmn
          exact ⟨e, List.mem_append_right _ List.mem_cons_self⟩
        · obtain ⟨e', he'⟩ := hserial.all m j (by omega) hwrites
          exact ⟨e', List.mem_append_left _ he'⟩
      · rw [hlines, hserial.result, List.foldl_append]
        rfl
    · have hsame : (r.state (n + 1)).lines key = (r.state n).lines key := by
        unfold State.lines
        rw [lookup_between (Nat.le_succ n) fun k hnk hkn => ?_]
        exact not_changesAt (fun j hwrites => hn ⟨j, (show k = n by omega) ▸ hwrites⟩) (hlasting key k)
      refine ⟨edits, hserial.ordered, fun x hx => ?_, fun m j hm hwrites => ?_, hsame.trans hserial.result⟩
      · obtain ⟨hlt, hmade⟩ := hserial.made x hx
        exact ⟨by omega, hmade⟩
      · have hmn : m ≠ n := by
          rintro rfl
          exact hn ⟨j, hwrites⟩
        exact hserial.all m j (by omega) hwrites

/-- **The last edit of a variant is seen** until another touches it. -/
theorem Serial.reflected {e₁ e₂ : List (ℕ × Edit)} {e : Edit} {v : String} (h : Serial r key n (e₁ ++ (m, e) :: e₂))
    (hlater : ∀ x ∈ e₂, ¬ x.2.Touches v) :
    linesFor v ((r.state n).lines key) = linesFor v (e.apply (e₁.foldl (fun x e => e.2.apply x) (r.init.lines key))) := by
  rw [h.result, List.foldl_append, List.foldl_cons]
  have hframe : ∀ (edits : List (ℕ × Edit)) (x : Lines), (∀ y ∈ edits, ¬ y.2.Touches v) →
      linesFor v (edits.foldl (fun x e => e.2.apply x) x) = linesFor v x := by
    intro edits
    induction edits with
    | nil => exact fun x _ => rfl
    | cons y rest ih =>
      intro x hfree
      rw [List.foldl_cons, ih _ fun z hz => hfree z (List.mem_cons_of_mem _ hz)]
      exact linesFor_apply (hfree y List.mem_cons_self)
  exact hframe e₂ _ hlater

theorem clean_or_regranted (hq : Allowed call l op b) (hop : op.written = some key) (hcall : ∀ owner, call ≠ .createOrder owner) :
    Regranted key l ∨ Clean key l := by
  have hsaved : ∀ {cart e}, Saved key cart e l → Regranted key l ∨ Clean key l := fun ⟨_, _, _, hclean⟩ => .inr hclean
  cases op with
  | set key' cart =>
    obtain rfl := Option.some.inj hop
    cases call with
    | getCart owner => exact hsaved hq.2
    | addItem owner variantId quantity => exact hsaved hq.2
    | updateItem owner variantId quantity => exact hsaved hq.2
    | removeItem owner variantId => exact hsaved hq.2
    | validateCart owner => exact hsaved hq.2
    | createOrder owner => exact absurd rfl (hcall owner)
    | mergeGuestCartToUserCart userId sessionId =>
      obtain ⟨rfl, hsame, l₁, z, l₂, guestCart, userCart, _, _, _, hread, _⟩ := hq
      by_cases heq : guestKey sessionId = userKey userId
      · exact .inl (hsame heq)
      · exact .inr (hread heq).2
    | clearCart owner expected => exact hq.elim
    | pass ms => exact hq.elim
  | del key' =>
    obtain rfl := Option.some.inj hop
    cases call with
    | clearCart owner expected => exact .inr hq.2.2
    | createOrder owner => exact absurd rfl (hcall owner)
    | mergeGuestCartToUserCart userId sessionId => exact .inr hq.2.2.2
    | _ => exact hq.elim
  | _ => cases hop

end Steps

/-- **Where the lock serves, and no cart is left alone for a week, no update is lost.** -/
theorem noLostUpdate (r : (carts cfg).Run fun _ => True) (hserves : Undisputed r.trace) (hlasting : Lasting r) : NoLostUpdate r := by
  refine ⟨exists_serial hserves hlasting, ?_, ?_⟩
  · intro n i call reply hreturns key hkey
    obtain ⟨l, hl, hanswers, _⟩ := (meets_all r.traced fun call => proc_logs call).2 n i call reply hreturns
    obtain ⟨x, hx, hop⟩ := hanswers key hkey
    exact ⟨x.place, x.op, x.before, hl.lt x hx, hl.does hx, hop⟩
  · intro m n i call op op' b b' key hdoes hdoes' hop hop' hcall
    have hnot : ∀ {m n op op' b b'}, Does r.trace m i call op b → Does r.trace n i call op' b' → Op.written op = some key →
        Op.written op' = some key → ¬ m < n := by
      intro m n op op' b b' hdoes hdoes' hop hop' hlt
      obtain ⟨l, hl, hq⟩ := allowed hdoes'
      obtain ⟨x, hx, rfl, rfl, rfl⟩ := hl.find hlt hdoes
      rcases clean_or_regranted hq hop' hcall with hagain | hclean
      · exact hserves.not_regranted hl ⟨call, op', b', hdoes', hop'⟩ hagain
      · exact hclean x hx hop
    have h₁ := hnot hdoes hdoes' hop hop'
    have h₂ := hnot hdoes' hdoes hop' hop
    omega

/-! ## The lease -/

section Lease
variable {r : (carts cfg).Run fun _ => True} {m n i j : ℕ} {call call' : Call} {op : Op} {b b' : State} {key : String}

/-- **Each call writes before its lease has ended.** -/
def InTime (r : (carts cfg).Run fun _ => True) : Prop :=
  ∀ key a n i, GrantedAt r.trace a i key → WritesAt r.trace n i key → a < n → Keeps r.trace a n i key →
    (r.state n).now < (r.state a).now + lockTtlMs

theorem now_perform {x : op.Res} (h : perform op b = .ok (x, b')) : b.now ≤ b'.now ∧ b.nextToken ≤ b'.nextToken := by
  cases op with
  | pass ms =>
    cases h
    exact ⟨Nat.le_add_right _ _, le_rfl⟩
  | randomUUID =>
    cases h
    exact ⟨le_rfl, Nat.le_succ _⟩
  | acquireLock key token ttlMs =>
    simp only [perform] at h
    split at h <;> cases h <;> exact ⟨le_rfl, le_rfl⟩
  | releaseLock key token =>
    simp only [perform] at h
    split at h <;> cases h <;> exact ⟨le_rfl, le_rfl⟩
  | _ =>
    cases h
    exact ⟨le_rfl, le_rfl⟩

theorem now_le (hmn : m ≤ n) : (r.state m).now ≤ (r.state n).now :=
  keeps_between (P := fun s : State => (r.state m).now ≤ s.now) r.lawful hmn
    (fun _ _ _ _ _ _ _ _ _ _ hperf hm => hm.trans (now_perform hperf).1) le_rfl

/-- No token is drawn twice. -/
theorem nextToken_lt (h : Does r.trace m i call .randomUUID b) (h' : Does r.trace n j call' .randomUUID b') (hmn : m < n) :
    b.nextToken < b'.nextToken := by
  obtain ⟨rfl, _⟩ := h'.at r.lawful
  obtain ⟨_, a, hperf⟩ := h.at r.lawful
  refine keeps_between (P := fun s : State => b.nextToken < s.nextToken) r.lawful (Nat.succ_le_of_lt hmn)
    (fun _ _ _ _ _ _ _ _ _ _ hperf' hm => hm.trans_le (now_perform hperf').2) ?_
  obtain ⟨_, hstate⟩ := Prod.mk.inj (Except.ok.inj hperf)
  rw [← hstate]
  exact Nat.lt_succ_self _

/-- A lock that is held stays: nobody is granted it, and nobody else can give it back. -/
theorem lookup_lock {x : op.Res} {lockName : String} {lock : Lock} (hperf : perform op b = .ok (x, b'))
    (hlock : b.locks.lookup lockName = some lock) (hlease : b.now < lock.expiresAt)
    (hrelease : ∀ token, op = .releaseLock lockName token → token ≠ lock.token) : b'.locks.lookup lockName = some lock := by
  have hheld : b.held lockName = some lock := by
    unfold State.held
    rw [hlock, Option.filter_some, if_pos (by simpa using hlease)]
  cases op with
  | acquireLock key token ttlMs =>
    simp only [perform] at hperf
    split at hperf
    · cases hperf
      exact hlock
    · rename_i hfree
      cases hperf
      have hne : lockName ≠ key := by
        rintro rfl
        exact hfree (by rw [hheld]; rfl)
      exact (AList.lookup_insert_ne hne).trans hlock
  | releaseLock key token =>
    simp only [perform] at hperf
    split at hperf
    · rename_i howned
      cases hperf
      have hne : lockName ≠ key := by
        rintro rfl
        rw [hheld] at howned
        exact hrelease token rfl (of_decide_eq_true howned).symm
      exact (AList.lookup_erase_ne hne).trans hlock
    · cases hperf
      exact hlock
  | _ =>
    cases hperf
    exact hlock

/-- **A lock whose holders write in time serves.** -/
theorem undisputed_of_inTime (h : InTime r) : Undisputed r.trace := by
  intro key a n i hgranted hwrites han hkeeps k j hak hkn hforeign
  have hlease := h key a n i hgranted hwrites han hkeeps
  obtain ⟨call, op, b, hdoes, token, rfl, hfree⟩ := hgranted
  obtain ⟨l, hl, -, x, hx, hdrawn, rfl⟩ := allowed hdoes
  have hdraws : Does r.trace x.place i call .randomUUID x.before := hdrawn ▸ hl.does hx
  obtain ⟨rfl, y, hperf⟩ := hdoes.at r.lawful
  have hlocked : (r.state (a + 1)).locks.lookup (lockKey key) = some ⟨x.before.nextToken, (r.state a).now + lockTtlMs⟩ := by
    simp only [perform, hfree, Option.isSome_none, Bool.false_eq_true, if_false] at hperf
    obtain ⟨_, hstate⟩ := Prod.mk.inj (Except.ok.inj hperf)
    unfold Run.state
    rw [← hstate]
    exact AList.lookup_insert _
  have hheld : (r.state k).locks.lookup (lockKey key) = some ⟨x.before.nextToken, (r.state a).now + lockTtlMs⟩ := by
    refine keeps_between (P := fun s : State => s.locks.lookup (lockKey key) = some ⟨x.before.nextToken, (r.state a).now + lockTtlMs⟩)
      r.lawful (Nat.succ_le_of_lt hak) ?_ hlocked
    intro p j' call' op' b' y' b'' hap hpk hdoes' hperf' hp
    obtain ⟨hb', _⟩ := hdoes'.at r.lawful
    refine lookup_lock hperf' hp ?_ ?_
    · have hnow : b'.now ≤ (r.state n).now := hb' ▸ now_le (r := r) (by omega : p ≤ n)
      exact hnow.trans_lt hlease
    · -- The token of another session was drawn at another place.
      rintro token' rfl heq
      obtain ⟨l', hl', z, hz, hdrawn', rfl⟩ := allowed hdoes'
      have hdraws' : Does r.trace z.place j' call' .randomUUID z.before := hdrawn' ▸ hl'.does hz
      have hother : j' ≠ i := by
        rintro rfl
        exact hkeeps p call' _ b' (by omega) (by omega) hdoes' ⟨_, rfl⟩
      rcases Nat.lt_trichotomy x.place z.place with hlt | hsame | hgt
      · exact absurd heq (nextToken_lt hdraws hdraws' hlt).ne'
      · exact hother (hdraws'.unique (hsame ▸ hdraws)).1
      · exact absurd heq (nextToken_lt hdraws' hdraws hgt).ne
  obtain ⟨call', op', b', hdoes', token', rfl, hfree'⟩ := hforeign
  obtain ⟨rfl, _⟩ := hdoes'.at r.lawful
  have hnow : (r.state k).now < (r.state a).now + lockTtlMs := (now_le hkn.le).trans_lt hlease
  change (r.state k).held (lockKey key) = none at hfree'
  unfold State.held at hfree'
  rw [hheld, Option.filter_some, if_pos (by simpa using hnow)] at hfree'
  cases hfree'

/-- The carts of a run that takes less than a week last. -/
theorem lasting_of_short (hinit : ∀ key time, r.init.expires.lookup key = some time → cartTtlMs ≤ time)
    (hshort : (r.state r.trace.length).now < cartTtlMs) : Lasting r := by
  rintro key k ⟨i, call, op, b, hdoes, ms, rfl, hrunsOut⟩
  have hlate : ∀ time, b.expires.lookup key = some time → cartTtlMs ≤ time := by
    obtain ⟨rfl, _⟩ := hdoes.at r.lawful
    refine keeps_between (P := fun s : State => ∀ time, s.expires.lookup key = some time → cartTtlMs ≤ time) r.lawful (Nat.zero_le k)
      (fun _ _ _ op' s _ s' _ _ _ hperf hs time htime => ?_) (hinit key)
    cases op' with
    | pass ms =>
      cases hperf
      have hkept : (s.expires.lookup key).filter (fun _ => !s.runsOut key ms) = some time := (AList.lookup_keep ..).symm.trans htime
      exact hs time (Option.filter_eq_some_iff.1 hkept).1
    | set key' cart =>
      cases hperf
      by_cases hkey : key = key'
      · subst hkey
        rw [← Option.some.inj ((AList.lookup_insert _).symm.trans htime)]
        exact Nat.le_add_left _ _
      · exact hs time ((AList.lookup_insert_ne hkey).symm.trans htime)
    | del key' =>
      cases hperf
      by_cases hkey : key = key'
      · subst hkey
        cases (AList.lookup_erase _ _).symm.trans htime
      · exact hs time ((AList.lookup_erase_ne hkey).symm.trans htime)
    | acquireLock key' token ttlMs =>
      simp only [perform] at hperf
      split at hperf <;> cases hperf <;> exact hs time htime
    | releaseLock key' token =>
      simp only [perform] at hperf
      split at hperf <;> cases hperf <;> exact hs time htime
    | _ =>
      cases hperf
      exact hs time htime
  obtain ⟨time, htime, hends⟩ := (Option.any_eq_true _ _).1 hrunsOut
  have hnow : b.now + ms ≤ (r.state r.trace.length).now := by
    obtain ⟨_, _, hperf⟩ := hdoes.at r.lawful
    obtain ⟨_, hstate⟩ := Prod.mk.inj (Except.ok.inj hperf)
    have hle := now_le (r := r) (Nat.succ_le_of_lt hdoes.lt)
    unfold Run.state at hle
    rwa [← hstate] at hle
  have := hlate time htime
  have := of_decide_eq_true hends
  omega

end Lease

/-! ## Two customers' windows -/

def standardConfig : Config where
  freeShippingMinAmount := none

def sampleVariant (variantId : String) : ProductVariantSnapshot where
  variantId := variantId
  productId := "shirt"
  text := ⟨"Shirt", none, variantId, none, none, none, none⟩
  campaign := ⟨none, none, none, none, none⟩
  unitPrice := 100000
  isOnSale := false
  stockQuantity := 10
  reservedQuantity := 0
  isActive := true

/-- Everything is in stock, nothing is promoted, and every order is made. -/
def sampleShop : Answer where
  shop :=
    { variants := fun id => some (sampleVariant (canonicalId id))
      activeCampaigns := some []
      baseFees := some [.num 30000]
      named := fun _ _ h => by cases h; rfl }
  ordered := true

def customer : Owner := ⟨some "7", none⟩

def noCarts : State where
  carts := ∅
  expires := ∅
  locks := ∅
  nextToken := 0
  now := 0

/-- The second waits for the lock of the first. -/
def inTurn : (carts standardConfig).Run fun _ => True :=
  .ofSchedule noCarts
    [.arrive (.addItem customer "red" 1), .arrive (.addItem customer "blue" 2), .go 0, .go 1, .go 0, .go 1, .go 0, .go 0,
      .answer 0 sampleShop, .answer 0 sampleShop, .answer 0 sampleShop, .answer 0 sampleShop, .go 0, .go 0, .go 0, .go 0,
      .go 1, .go 1, .answer 1 sampleShop, .answer 1 sampleShop, .answer 1 sampleShop, .answer 1 sampleShop, .go 1, .go 1, .go 1, .go 1]
    trivial

theorem inTurn_kept : NoLostUpdate inTurn ∧ (inTurn.state 16).lines "cart:7" = [("red", 1), ("blue", 2)] := by
  have hlast : (inTurn.state inTurn.trace.length).now = 0 := by decide
  refine ⟨noLostUpdate inTurn (undisputed_of_inTime fun key a n i _ hwrites _ _ => ?_)
    (lasting_of_short (fun key time h => by cases h) (by rw [hlast]; decide)), by decide⟩
  obtain ⟨call, op, b, hdoes, _⟩ := hwrites
  have hnow := now_le (r := inTurn) hdoes.lt.le
  have hlease : 0 < lockTtlMs := by decide
  omega

/-- The calls that change the lines of a cart. -/
def Call.isUpdate : Call → Bool
  | .addItem .. | .updateItem .. | .removeItem .. | .mergeGuestCartToUserCart .. | .pass _ => true
  | _ => false

/-- The first has read the empty cart, and writes after its lease has ended. -/
def overtaken : (carts standardConfig).Run fun _ => True :=
  .ofSchedule noCarts
    [.arrive (.addItem customer "red" 1), .arrive (.pass 5000), .arrive (.addItem customer "blue" 1), .go 0, .go 0, .go 0, .go 0, .go 1,
      .go 2, .go 2, .go 2, .go 2, .answer 2 sampleShop, .answer 2 sampleShop, .answer 2 sampleShop, .answer 2 sampleShop,
      .go 2, .go 2, .go 2, .go 2, .answer 0 sampleShop, .answer 0 sampleShop, .answer 0 sampleShop, .answer 0 sampleShop,
      .go 0, .go 0, .go 0, .go 0] trivial

/-- Where the cart is written. -/
def overtakenAt (n : ℕ) (call : Call) : Op → Bool
  | .set key _ => key == "cart:7" && ((n == 10 && call == .addItem customer "blue" 1) || (n == 14 && call == .addItem customer "red" 1))
  | .del _ => false
  | _ => true

theorem overtaken_written {n i : ℕ} {call : Call} {op : Op} {b : State} {key : String} (h : Does overtaken.trace n i call op b)
    (hop : op.written = some key) : (n = 10 ∧ call = .addItem customer "blue" 1) ∨ (n = 14 ∧ call = .addItem customer "red" 1) := by
  have hplace := forall_does (p := fun n _ call op => overtakenAt n call op) (by decide) h
  cases op with
  | set key' cart =>
    simp only [overtakenAt, Bool.and_eq_true, Bool.or_eq_true, beq_iff_eq] at hplace
    exact hplace.2
  | del key' => cases hplace
  | _ => cases hop

/-- **Two additions succeed, and the first of them is lost.** -/
theorem overtaken_lost : ¬ ∀ cfg, ∀ r : (carts cfg).Run fun _ => True,
    (∀ n i call op b, Does r.trace n i call op b → call.isUpdate = true) → NoLostUpdate r := by
  intro hall
  have hupdates : ∀ n i call op b, Does overtaken.trace n i call op b → call.isUpdate = true := fun n i call op b hdoes =>
    forall_does (p := fun _ _ (call : Call) _ => call.isUpdate) (by decide) hdoes
  obtain ⟨edits, hserial⟩ := (hall standardConfig overtaken hupdates).serial "cart:7" 17
  have hmade : ∀ x ∈ edits, (x.1 = 10 ∧ x.2 = .add "blue" 1) ∨ (x.1 = 14 ∧ x.2 = .add "red" 1) := by
    rintro ⟨place, e⟩ hx
    obtain ⟨_, i, call, op, b, hdoes, hop, hmakes⟩ := hserial.made _ hx
    rcases overtaken_written hdoes hop with ⟨hplace, rfl⟩ | ⟨hplace, rfl⟩
    · cases hmakes
      exact .inl ⟨hplace, rfl⟩
    · cases hmakes
      exact .inr ⟨hplace, rfl⟩
  have hwritten : ∀ n, (actAt overtaken.trace n).any (fun x => x.2.2.written == some "cart:7") = true → n < 17 → ∃ e, (n, e) ∈ edits := by
    intro n hn hlt
    obtain ⟨i, call, op, b, hdoes, hop⟩ := exists_does (A := carts standardConfig) (p := fun _ _ op => op.written == some "cart:7") hn
    exact hserial.all n i hlt ⟨call, op, b, hdoes, beq_iff_eq.1 hop⟩
  obtain ⟨e₁, h₁⟩ := hwritten 10 (by decide) (by omega)
  obtain ⟨e₂, h₂⟩ := hwritten 14 (by decide) (by omega)
  have hlines : (overtaken.state 17).lines "cart:7" = [("red", 1)] := by decide
  have hnone : overtaken.init.lines "cart:7" = [] := by decide
  have hresult := hserial.result
  rw [hlines, hnone] at hresult
  -- The two edits follow each other, so both lines would be there.
  match edits, hserial.ordered, hmade, h₁, h₂, hresult with
  | [x], _, _, h₁, h₂, _ =>
    have hx₁ := List.mem_singleton.1 h₁
    have hx₂ := List.mem_singleton.1 h₂
    rw [← hx₁] at hx₂
    cases hx₂
  | [x, y], hordered, hmade, h₁, h₂, hresult =>
    have hxy := List.rel_of_pairwise_cons hordered List.mem_cons_self
    rcases hmade x List.mem_cons_self with ⟨hx, hadd⟩ | ⟨hx, hadd⟩
    · rcases hmade y (List.mem_cons_of_mem _ List.mem_cons_self) with ⟨hy, _⟩ | ⟨hy, hadd'⟩
      · omega
      · rw [List.foldl_cons, List.foldl_cons, List.foldl_nil, hadd, hadd'] at hresult
        exact absurd hresult (by decide)
    · rcases hmade y (List.mem_cons_of_mem _ List.mem_cons_self) with ⟨hy, _⟩ | ⟨hy, _⟩ <;> omega
  | x :: y :: z :: rest, hordered, hmade, _, _, _ =>
    have hxy := List.rel_of_pairwise_cons hordered List.mem_cons_self
    have hyz := List.rel_of_pairwise_cons (List.pairwise_cons.1 hordered).2 List.mem_cons_self
    have hx := hmade x (by simp)
    have hy := hmade y (by simp)
    have hz := hmade z (by simp)
    omega

end Balii.Carts
