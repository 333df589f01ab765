import Balii.Cart.Service
import Balii.Lib.Play
/-!
# Alone — what the operations on a cart do by themselves

With nobody else about, an operation that gets its lock is a function of the carts, the clock and the answers of the other services:
it is computed here once, and `withCartLock` leaves no trace among the carts.
-/
namespace Balii.Carts

open Rowdb Rowdb.Atomic

variable {cfg : Config} {key : String} {answers : ℕ → Answer} {s : State} {α : Type}

/-! ## Commands -/

theorem play_act {op : Op} (a : op.Res) (s' : State) (h : perform op s = .ok (a, s')) :
    play (A := carts cfg) (act op) answers s = ⟨.ok a, answers, s'⟩ :=
  play_trans (A := carts cfg) h

theorem play_askShop : play (A := carts cfg) askShop answers s = ⟨.ok (answers 0).shop, fun n => answers (n + 1), s⟩ := rfl

/-- What `getRawCart` makes of the store. -/
def State.rawCart (s : State) (key : String) : Cart := (s.carts.lookup key).getD ⟨key, [], [], 0, 0, 0, 0, s.now⟩

theorem play_getRawCart : play (A := carts cfg) (getRawCart key) answers s = ⟨.ok (s.rawCart key), answers, s⟩ := by
  unfold getRawCart State.rawCart
  rw [play_bind, play_act (s.carts.lookup key) s rfl, andThen_ok]
  cases s.carts.lookup key with
  | none => rfl
  | some cart => rfl

/-! ## The lock -/

/-- The lock is taken with the next token. -/
def State.locked (s : State) (key : String) : State :=
  { s with locks := s.locks.insert (lockKey key) ⟨s.nextToken, s.now + lockTtlMs⟩, nextToken := s.nextToken + 1 }

theorem play_acquire_held {token : ℕ} (h : (s.held (lockKey key)).isSome = true) : ∀ attempts,
    play (A := carts cfg) (acquire key token attempts) answers s = ⟨.ok false, answers, s⟩
  | 0 => rfl
  | attempts + 1 => by
    unfold acquire
    rw [play_bind, play_act false s (by rw [perform, if_pos h]), andThen_ok]
    exact play_acquire_held h attempts

theorem play_acquire_free {token attempts : ℕ} (h : s.held (lockKey key) = none) :
    play (A := carts cfg) (acquire key token (attempts + 1)) answers s =
      ⟨.ok true, answers, { s with locks := s.locks.insert (lockKey key) ⟨token, s.now + lockTtlMs⟩ }⟩ := by
  have hperf : perform (.acquireLock (lockKey key) token lockTtlMs) s =
      .ok (true, { s with locks := s.locks.insert (lockKey key) ⟨token, s.now + lockTtlMs⟩ }) := by
    rw [perform, h]
    rfl
  unfold acquire
  rw [play_bind, play_act true { s with locks := s.locks.insert (lockKey key) ⟨token, s.now + lockTtlMs⟩ } hperf, andThen_ok]
  rfl

theorem play_release (cfg : Config) (key : String) (token : ℕ) (answers : ℕ → Answer) (s : State) :
    ∃ s', play (A := carts cfg) (act (.releaseLock (lockKey key) token)) answers s = ⟨.ok (), answers, s'⟩ ∧
      s'.carts = s.carts := by
  by_cases hheld : (s.held (lockKey key)).any (fun lock => lock.token == token) = true
  · have hperf : perform (.releaseLock (lockKey key) token) s = .ok ((), { s with locks := s.locks.erase (lockKey key) }) := if_pos hheld
    exact ⟨_, play_trans (A := carts cfg) hperf, rfl⟩
  · have hperf : perform (.releaseLock (lockKey key) token) s = .ok ((), s) := if_neg hheld
    exact ⟨_, play_trans (A := carts cfg) hperf, rfl⟩

/-- **Under a lock that is free** the operation is played, and what it has made of the carts stays. -/
theorem play_withCartLock (cfg : Config) (answers : ℕ → Answer) (operation : Procedure α) (h : s.held (lockKey key) = none) :
    (play (A := carts cfg) (withCartLock key operation) answers s).result =
        (play (A := carts cfg) operation answers (s.locked key)).result ∧
      (play (A := carts cfg) (withCartLock key operation) answers s).state.carts =
        (play (A := carts cfg) operation answers (s.locked key)).state.carts := by
  have hfree : ({ s with nextToken := s.nextToken + 1 } : State).held (lockKey key) = none := h
  unfold withCartLock
  rw [play_bind, play_act s.nextToken { s with nextToken := s.nextToken + 1 } rfl, andThen_ok, play_bind,
    play_acquire_free hfree, andThen_ok, play_bind, play_ensure, if_pos rfl, andThen_ok, play_bind, play_catching]
  change ((Played.rescue (play (A := carts cfg) operation answers (s.locked key)) _).andThen _).result = _ ∧
    ((Played.rescue (play (A := carts cfg) operation answers (s.locked key)) _).andThen _).state.carts = _
  generalize play (A := carts cfg) operation answers (s.locked key) = r
  obtain ⟨result, answers', s'⟩ := r
  obtain ⟨s'', hplay, hcarts⟩ := play_release cfg key s.nextToken answers' s'
  cases result with
  | ok a =>
    change (play (A := carts cfg) (act (.releaseLock (lockKey key) s.nextToken) >>= _) answers' s').result = _ ∧
      (play (A := carts cfg) (act (.releaseLock (lockKey key) s.nextToken) >>= _) answers' s').state.carts = _
    rw [play_bind, hplay]
    exact ⟨rfl, hcarts⟩
  | error e =>
    have hfail : play (A := carts cfg) (releaseWith (α := α) key s.nextToken e) answers' s' = ⟨.error e, answers', s''⟩ := by
      unfold releaseWith
      rw [play_bind, hplay]
      rfl
    change ((play (A := carts cfg) (releaseWith (α := α) key s.nextToken e) answers' s').andThen _).result = _ ∧
      ((play (A := carts cfg) (releaseWith (α := α) key s.nextToken e) answers' s').andThen _).state.carts = _
    rw [hfail]
    exact ⟨rfl, hcarts⟩

/-! ## The cart -/

/-- What `calculateCart` makes of a cart: it asks for the variants, for the campaigns with their gifts, and for the shipping. -/
def calculated (cfg : Config) (cart : Cart) (answers : ℕ → Answer) (now : ℕ) : Except Err Cart := do
  let items ← cart.items.mapM (priceItem (answers 0).shop)
  let promotionItems ← buildPromotionItems (answers 1).shop items
  let freeShippingMinimum ← cfg.freeShippingMinimum
  let baseShippingFee ← getDefaultShippingFee (answers 2).shop
  pure (totalCart cart items promotionItems freeShippingMinimum baseShippingFee now)

/-- The carts after a result is saved; an error saves nothing. -/
def saved (carts : Table String Cart) (key : String) : Except Err Cart → Table String Cart
  | .ok cart => carts.insert key cart
  | .error _ => carts

def State.save (s : State) (key : String) : Except Err Cart → State
  | .ok cart => s.put key cart
  | .error _ => s

theorem carts_save (s : State) (key : String) (r : Except Err Cart) : (s.save key r).carts = saved s.carts key r := by
  cases r <;> rfl

theorem play_calculateCart (cfg : Config) (cart : Cart) (answers : ℕ → Answer) (s : State) : ∃ answers',
    play (A := carts cfg) (calculateCart cfg cart) answers s = ⟨calculated cfg cart answers s.now, answers', s⟩ := by
  unfold calculateCart calculated
  rw [play_bind, play_askShop, andThen_ok]
  refine play_ofExcept_bind (A := carts cfg) fun items _ => ?_
  rw [play_bind, play_askShop, andThen_ok]
  refine play_ofExcept_bind (A := carts cfg) fun promotionItems _ => play_ofExcept_bind (A := carts cfg) fun minimum _ => ?_
  rw [play_bind, play_askShop, andThen_ok]
  exact play_ofExcept_bind (A := carts cfg) fun fee _ => ⟨_, rfl⟩

theorem play_saveCart (cfg : Config) (key : String) (cart : Cart) (answers : ℕ → Answer) (s : State) : ∃ answers',
    play (A := carts cfg) (saveCart cfg key cart) answers s =
      ⟨calculated cfg cart answers s.now, answers', s.save key (calculated cfg cart answers s.now)⟩ := by
  obtain ⟨answers', hplay⟩ := play_calculateCart cfg cart answers s
  refine ⟨answers', ?_⟩
  unfold saveCart
  rw [play_bind, hplay]
  cases calculated cfg cart answers s.now with
  | error e => rfl
  | ok calculated => rfl

section Edits
variable {owner : Owner} {edit : List CartItem → Procedure (List CartItem)} {items : Except Err (List CartItem)} {answers' : ℕ → Answer}

/-- What an operation on one cart answers: the cart with its lines edited, calculated anew. -/
def editedCart (cfg : Config) (s : State) (key : String) (items : Except Err (List CartItem)) (answers : ℕ → Answer) : Except Err Cart := do
  let items ← items
  calculated cfg { s.rawCart key with items := items } answers s.now

/-- **An operation on one cart**, whose lock is free and whose edit only asks. -/
theorem play_editCart (hkey : getCartKey owner = .ok key) (hfree : s.held (lockKey key) = none)
    (hedit : play (A := carts cfg) (edit (s.rawCart key).items) answers (s.locked key) = ⟨items, answers', s.locked key⟩) :
    (play (A := carts cfg) (editCart cfg owner edit) answers s).result = editedCart cfg s key items answers' ∧
      (play (A := carts cfg) (editCart cfg owner edit) answers s).state.carts =
        saved s.carts key (editedCart cfg s key items answers') := by
  let body : Procedure Cart := do
    let cart ← getRawCart key
    let items ← edit cart.items
    saveCart cfg key { cart with items := items }
  have hbody : ∃ answers'', play (A := carts cfg) body answers (s.locked key) =
      ⟨editedCart cfg s key items answers', answers'', (s.locked key).save key (editedCart cfg s key items answers')⟩ := by
    change ∃ answers'', play (A := carts cfg) (getRawCart key >>= _) answers (s.locked key) = _
    rw [play_bind, play_getRawCart, andThen_ok, play_bind]
    change ∃ answers'', (play (A := carts cfg) (edit (s.rawCart key).items) answers (s.locked key)).andThen _ = _
    rw [hedit]
    cases items with
    | error e => exact ⟨answers', rfl⟩
    | ok items => exact play_saveCart cfg key { s.rawCart key with items := items } answers' (s.locked key)
  obtain ⟨answers'', hbody⟩ := hbody
  have hrun : play (A := carts cfg) (editCart cfg owner edit) answers s = play (A := carts cfg) (withCartLock key body) answers s := by
    unfold editCart
    rw [hkey]
    rfl
  obtain ⟨hresult, hcarts⟩ := play_withCartLock cfg answers body hfree
  rw [hrun]
  exact ⟨hresult.trans (by rw [hbody]), hcarts.trans (by rw [hbody, carts_save]; rfl)⟩

/-! ## The operations -/

theorem play_getCart (hkey : getCartKey owner = .ok key) (hfree : s.held (lockKey key) = none) :
    (play (A := carts cfg) (getCart cfg owner) answers s).result = editedCart cfg s key (.ok (s.rawCart key).items) answers :=
  (play_editCart hkey hfree rfl).1

end Edits

end Balii.Carts
