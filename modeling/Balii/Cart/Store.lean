import Balii.Cart.Items
import Balii.Lib.Atomic
import Balii.Lib.Table
/-!
# Store — the carts in Redis, and their locks

`perform` is one command of Redis, one reading of the clock or one random token.  A lock is its token and the time its lease ends;
a cart is kept as it was written, for a week.  Time passes by `pass` alone, as much of it as may be between any two commands.
-/
namespace Balii.Carts

open Rowdb

structure Lock where
  token : ℕ
  expiresAt : ℕ
  deriving DecidableEq

/-- `CART_TTL_SECONDS`. -/
def cartTtlMs : ℕ := 7 * 24 * 60 * 60 * 1000

structure State where
  carts : Table String Cart
  /-- When Redis drops each cart, in milliseconds. -/
  expires : Table String ℕ
  locks : Table String Lock
  /-- The next random token: no token comes twice. -/
  nextToken : ℕ
  /-- In milliseconds. -/
  now : ℕ

inductive Op
  | pass (ms : ℕ)
  | readClock
  | randomUUID
  | acquireLock (key : String) (token ttlMs : ℕ)
  | releaseLock (key : String) (token : ℕ)
  | get (key : String)
  | set (key : String) (cart : Cart)
  | del (key : String)
  deriving DecidableEq

@[reducible] def Op.Res : Op → Type
  | .readClock => ℕ
  | .randomUUID => ℕ
  | .acquireLock .. => Bool
  | .get _ => Option Cart
  | _ => Unit

/-- The lock on a key, as long as its lease lasts. -/
def State.held (s : State) (key : String) : Option Lock := (s.locks.lookup key).filter fun lock => s.now < lock.expiresAt

/-- The cart runs out when so much time passes. -/
def State.runsOut (s : State) (key : String) (ms : ℕ) : Bool := (s.expires.lookup key).any fun time => time ≤ s.now + ms

/-- Time passes, and Redis drops the carts that have run out. -/
def State.later (s : State) (ms : ℕ) : State :=
  { s with
    carts := s.carts.keep fun key _ => !s.runsOut key ms
    expires := s.expires.keep fun key _ => !s.runsOut key ms
    now := s.now + ms }

/-- `SET key cart EX CART_TTL_SECONDS`. -/
def State.put (s : State) (key : String) (cart : Cart) : State :=
  { s with carts := s.carts.insert key cart, expires := s.expires.insert key (s.now + cartTtlMs) }

/-- `DEL key`. -/
def State.drop (s : State) (key : String) : State := { s with carts := s.carts.erase key, expires := s.expires.erase key }

/-- One command: its result, and the state it leaves. -/
def perform (op : Op) (s : State) : Except Err (op.Res × State) :=
  match op with
  | .pass ms => .ok ((), s.later ms)
  | .readClock => .ok (s.now, s)
  | .randomUUID => .ok (s.nextToken, { s with nextToken := s.nextToken + 1 })
  | .acquireLock key token ttlMs =>
    if (s.held key).isSome then .ok (false, s)
    else .ok (true, { s with locks := s.locks.insert key ⟨token, s.now + ttlMs⟩ })
  | .releaseLock key token =>
    if (s.held key).any (fun lock => lock.token == token) then .ok ((), { s with locks := s.locks.erase key }) else .ok ((), s)
  | .get key => .ok (s.carts.lookup key, s)
  | .set key cart => .ok ((), s.put key cart)
  | .del key => .ok ((), s.drop key)

end Balii.Carts
