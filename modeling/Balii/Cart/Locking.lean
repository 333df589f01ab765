import Balii.Cart.Service
import Balii.Cart.Lines
/-!
# Locking — what a call does under the lock of a cart

A call is granted the lock, reads the cart, and writes it before it gives the lock back; `Read` says so of its log.  `Undisputed`
is a lock as it should be: while a call holds it, nobody else is granted it before that call has written.
-/
namespace Balii.Carts

open Rowdb Rowdb.Atomic List

/-! ## Operations -/

/-- The cart that an operation writes. -/
def Op.written : Op → Option String
  | .set key _ => some key
  | .del key => some key
  | _ => none

/-- The operation is granted the lock of the cart. -/
def Grants (key : String) (op : Op) (b : State) : Prop := ∃ token, op = .acquireLock (lockKey key) token lockTtlMs ∧ b.held (lockKey key) = none

def Releases (key : String) (op : Op) : Prop := ∃ token, op = .releaseLock (lockKey key) token

/-- The cart's week ends. -/
def RunsOut (key : String) (op : Op) (b : State) : Prop := ∃ ms, op = .pass ms ∧ b.runsOut key ms = true

/-- The cart is written, or its week ends. -/
def Changes (key : String) (op : Op) (b : State) : Prop := op.written = some key ∨ RunsOut key op b

/-- It neither writes a cart nor gives a lock back. -/
def Quiet : Op → Prop
  | .set .. | .del _ | .releaseLock .. => False
  | _ => True

theorem Quiet.written {op : Op} (h : Quiet op) : op.written = none := by
  cases op with
  | set key cart => exact h.elim
  | del key => exact h.elim
  | _ => rfl

theorem Quiet.not_releases {op : Op} (h : Quiet op) (key : String) : ¬ Releases key op := by
  rintro ⟨token, rfl⟩
  exact h

theorem Grants.quiet {key : String} {op : Op} {b : State} (h : Grants key op b) : Quiet op := by
  obtain ⟨token, rfl, _⟩ := h
  trivial

/-! ## Logs -/

variable {cfg : Config}

abbrev Log (cfg : Config) : Type := List (carts cfg).Act

/-- The token was drawn by the call itself. -/
def Drawn (token : ℕ) (l : Log cfg) : Prop := ∃ x ∈ l, x.op = .randomUUID ∧ x.before.nextToken = token

/-- The lock has been granted and not given back. -/
def Holding (key : String) (l : Log cfg) : Prop :=
  ∃ l₁ x l₂, l = l₁ ++ x :: l₂ ∧ Grants key x.op x.before ∧ ∀ y ∈ l₂, ¬ Releases key y.op

/-- It has been granted again, before it was given back. -/
def Regranted (key : String) (l : Log cfg) : Prop :=
  ∃ l₁ x l₂, l = l₁ ++ x :: l₂ ∧ Holding key l₁ ∧ Grants key x.op x.before ∧ ∀ y ∈ l₂, ¬ Releases key y.op

/-- `getRawCart` has made `cart` of what it found in `b`. -/
def Found (key : String) (b : State) (l₂ : Log cfg) (cart : Cart) : Prop :=
  b.carts.lookup key = some cart ∨
    (b.carts.lookup key = none ∧ cart.items = [] ∧ ∃ w ∈ l₂, w.op = .readClock ∧ w.before.now = cart.updatedAt)

theorem Found.lines {key : String} {b : State} {l₂ : Log cfg} {cart : Cart} (h : Found key b l₂ cart) :
    b.lines key = linesOf cart.items := by
  unfold State.lines
  rcases h with h | ⟨h, hempty, _⟩
  · rw [h]
    rfl
  · rw [h, hempty]
    rfl

theorem Found.mono {key : String} {b : State} {l₂ l₃ : Log cfg} {cart : Cart} (h : Found key b l₂ cart) (hmore : ∀ w ∈ l₂, w ∈ l₃) :
    Found key b l₃ cart := by
  rcases h with h | ⟨h, hempty, w, hw, hclock⟩
  · exact .inl h
  · exact .inr ⟨h, hempty, w, hmore w hw, hclock⟩

/-- **The call holds the lock, has read the cart since, and nothing has become of the cart by its hand since then.** -/
def Read (key : String) (cart : Cart) (l : Log cfg) : Prop :=
  ∃ l₁ y l₂, l = l₁ ++ y :: l₂ ∧ y.op = .get key ∧ Holding key l₁ ∧ (∀ z ∈ l₂, z.op.written ≠ some key ∧ ¬ Releases key z.op) ∧
    Found key y.before l₂ cart

/-- The call has not written the cart. -/
def Clean (key : String) (l : Log cfg) : Prop := ∀ x ∈ l, x.op.written ≠ some key

section Logs
variable {key : String} {l l₂ : Log cfg} {cart : Cart}

theorem Holding.append (h : Holding key l) (hquiet : ∀ y ∈ l₂, ¬ Releases key y.op) : Holding key (l ++ l₂) := by
  obtain ⟨l₁, x, l₃, rfl, hgrants, hkept⟩ := h
  refine ⟨l₁, x, l₃ ++ l₂, by simp, hgrants, fun y hy => ?_⟩
  rcases List.mem_append.1 hy with hy | hy
  · exact hkept y hy
  · exact hquiet y hy

theorem Regranted.append (h : Regranted key l) (hquiet : ∀ y ∈ l₂, ¬ Releases key y.op) : Regranted key (l ++ l₂) := by
  obtain ⟨l₁, x, l₃, rfl, hholding, hgrants, hkept⟩ := h
  refine ⟨l₁, x, l₃ ++ l₂, by simp, hholding, hgrants, fun y hy => ?_⟩
  rcases List.mem_append.1 hy with hy | hy
  · exact hkept y hy
  · exact hquiet y hy

theorem Read.append (h : Read key cart l) (hquiet : ∀ z ∈ l₂, z.op.written ≠ some key ∧ ¬ Releases key z.op) :
    Read key cart (l ++ l₂) := by
  obtain ⟨l₁, y, l₃, rfl, hget, hholding, hkept, hfound⟩ := h
  refine ⟨l₁, y, l₃ ++ l₂, by simp, hget, hholding, fun z hz => ?_, hfound.mono fun w hw => List.mem_append_left _ hw⟩
  rcases List.mem_append.1 hz with hz | hz
  · exact hkept z hz
  · exact hquiet z hz

theorem Clean.append (h : Clean key l) (hclean : ∀ x ∈ l₂, x.op.written ≠ some key) : Clean key (l ++ l₂) := by
  intro x hx
  rcases List.mem_append.1 hx with hx | hx
  · exact h x hx
  · exact hclean x hx

theorem Drawn.mono {token : ℕ} {l' : Log cfg} (h : Drawn token l) (hpre : l <+: l') : Drawn token l' := by
  obtain ⟨x, hx, hdrawn⟩ := h
  exact ⟨x, hpre.subset hx, hdrawn⟩

end Logs

/-! ## The lock of a run -/

section Runs
variable (τ : (carts cfg).Trace)

/-- At the place `a` the session `i` is granted the lock of the cart. -/
def GrantedAt (a i : ℕ) (key : String) : Prop := ∃ call op b, Does τ a i call op b ∧ Grants key op b

/-- At the place `n` the session `i` writes the cart. -/
def WritesAt (n i : ℕ) (key : String) : Prop := ∃ call op b, Does τ n i call op b ∧ op.written = some key

/-- At the place `n` the cart's week ends. -/
def RunsOutAt (n : ℕ) (key : String) : Prop := ∃ i call op b, Does τ n i call op b ∧ RunsOut key op b

/-- At the place `n` the cart is written, or its week ends. -/
def ChangesAt (n : ℕ) (key : String) : Prop := ∃ i call op b, Does τ n i call op b ∧ Changes key op b

variable {τ} in
theorem not_changesAt {n : ℕ} {key : String} (hwrites : ∀ j, ¬ WritesAt τ n j key) (hrunsOut : ¬ RunsOutAt τ n key) :
    ¬ ChangesAt τ n key := by
  rintro ⟨i, call, op, b, hdoes, hop | hop⟩
  · exact hwrites i ⟨call, op, b, hdoes, hop⟩
  · exact hrunsOut ⟨i, call, op, b, hdoes, hop⟩

/-- From the place `a` to the place `n` the session `i` does not give the lock back. -/
def Keeps (a n i : ℕ) (key : String) : Prop := ∀ m call op b, a < m → m < n → Does τ m i call op b → ¬ Releases key op

/-- **The lock serves**: from the grant of a lock to each write of the call that holds it the lock is not granted again. -/
def Undisputed : Prop :=
  ∀ key a n i, GrantedAt τ a i key → WritesAt τ n i key → a < n → Keeps τ a n i key → ∀ k j, a < k → k < n → ¬ GrantedAt τ k j key

end Runs

section Places
variable {τ : (carts cfg).Trace} {n i : ℕ} {call : Call} {key : String} {l : Log cfg} {cart : Cart}

theorem Holding.grantedAt (h : Holding key l) (hl : LoggedTo τ n i call l) :
    ∃ a, GrantedAt τ a i key ∧ a < n ∧ (∃ x ∈ l, x.place = a ∧ Grants key x.op x.before) ∧ Keeps τ a n i key := by
  obtain ⟨l₁, x, l₂, rfl, hgrants, hkept⟩ := h
  have hx : x ∈ l₁ ++ x :: l₂ := List.mem_append_right _ List.mem_cons_self
  refine ⟨x.place, ⟨call, x.op, x.before, hl.does hx, hgrants⟩, hl.lt x hx, ⟨x, hx, rfl, hgrants⟩, ?_⟩
  intro m call' op b ham hmn hdoes
  obtain ⟨y, hy, rfl, rfl, rfl⟩ := hl.find hmn hdoes
  have hsorted := List.pairwise_append.1 hl.pairwise
  rcases List.mem_append.1 hy with hy | hy
  · have := hsorted.2.2 y hy x List.mem_cons_self
    omega
  · rcases List.mem_cons.1 hy with rfl | hy
    · omega
    · exact hkept y hy

theorem Undisputed.not_regranted (hserves : Undisputed τ) (hl : LoggedTo τ n i call l) (hwrites : WritesAt τ n i key) :
    ¬ Regranted key l := by
  rintro ⟨l₁, x, l₂, rfl, hholding, hgrants, hkept⟩
  have hx : x ∈ l₁ ++ x :: l₂ := List.mem_append_right _ List.mem_cons_self
  obtain ⟨a, ha, hax, -, hkeeps⟩ := hholding.grantedAt hl.upTo
  have hsorted := List.pairwise_append.1 hl.pairwise
  have hlong : Keeps τ a n i key := by
    intro m call' op b ham hmn hdoes
    rcases Nat.lt_or_ge m x.place with hmx | hxm
    · exact hkeeps m call' op b ham hmx hdoes
    · obtain ⟨y, hy, rfl, rfl, rfl⟩ := hl.find hmn hdoes
      rcases List.mem_append.1 hy with hy | hy
      · have := hsorted.2.2 y hy x List.mem_cons_self
        omega
      · rcases List.mem_cons.1 hy with rfl | hy
        · exact hgrants.quiet.not_releases key
        · exact hkept y hy
  exact hserves key a n i ha hwrites (hax.trans (hl.lt x hx)) hlong x.place i hax (hl.lt x hx) ⟨call, x.op, x.before, hl.does hx, hgrants⟩

/-- Each write of a cart is made under its lock. -/
def Locked (τ : (carts cfg).Trace) : Prop :=
  ∀ n i key, WritesAt τ n i key → ∃ a, a < n ∧ GrantedAt τ a i key ∧ Keeps τ a n i key

/-- **What a call has read stays as it was until the call writes**, where the lock serves. -/
theorem Undisputed.unwritten (hserves : Undisputed τ) (hlocked : Locked τ) (hl : LoggedTo τ n i call l) (hread : Read key cart l)
    (hwrites : WritesAt τ n i key) : ∃ m b, Does τ m i call (.get key) b ∧ m < n ∧ b.lines key = linesOf cart.items ∧
      ∀ k j, m ≤ k → k < n → ¬ WritesAt τ k j key := by
  obtain ⟨l₁, y, l₂, rfl, hget, hholding, hkept, hfound⟩ := hread
  have hy : y ∈ l₁ ++ y :: l₂ := List.mem_append_right _ List.mem_cons_self
  have hsorted := List.pairwise_append.1 hl.pairwise
  have hdoes := hl.does hy
  have hyn := hl.lt y hy
  obtain ⟨a, ha, hay, -, hkeeps⟩ := hholding.grantedAt hl.upTo
  have hown : ∀ k call' op b, y.place ≤ k → k < n → Does τ k i call' op b → op.written ≠ some key ∧ ¬ Releases key op := by
    intro k call' op b hyk hkn hdoes'
    obtain ⟨z, hz, rfl, rfl, rfl⟩ := hl.find hkn hdoes'
    rcases List.mem_append.1 hz with hz | hz
    · have := hsorted.2.2 z hz y List.mem_cons_self
      omega
    · rcases List.mem_cons.1 hz with rfl | hz
      · rw [hget]
        exact ⟨fun h => (nomatch h), fun ⟨_, h⟩ => (nomatch h)⟩
      · exact hkept z hz
  have hlong : Keeps τ a n i key := by
    intro m call' op b ham hmn hdoes'
    rcases Nat.lt_or_ge m y.place with hmy | hym
    · exact hkeeps m call' op b ham hmy hdoes'
    · exact (hown m call' op b hym hmn hdoes').2
  have hfree := hserves key a n i ha hwrites (hay.trans hyn) hlong
  refine ⟨y.place, y.before, hget ▸ hdoes, hyn, hfound.lines, fun k j hyk hkn hforeign => ?_⟩
  obtain ⟨a', ha'k, ha', hkeeps'⟩ := hlocked k j key hforeign
  by_cases hji : j = i
  · obtain ⟨call', op, b, hdoes', hop⟩ := hforeign
    subst hji
    exact (hown k call' op b hyk hkn hdoes').1 hop
  · -- The two grants stand in some order, and the later one disputes the earlier.
    rcases Nat.lt_trichotomy a a' with hlt | heq | hgt
    · exact hfree a' j hlt (ha'k.trans hkn) ha'
    · subst heq
      obtain ⟨_, _, _, hdoes₁, _⟩ := ha
      obtain ⟨_, _, _, hdoes₂, _⟩ := ha'
      exact hji (hdoes₂.unique hdoes₁).1
    · exact hserves key a' k j ha' hforeign ha'k hkeeps' a i hgt (hay.trans_le hyk) ha

end Places

/-! ## The programs -/

section Programs
variable {Q : Log cfg → Op → State → Prop} {α : Type} {key : String} {l : Log cfg}

theorem acquireLock_grants {token : ℕ} {b b' : State} (h : perform (.acquireLock (lockKey key) token lockTtlMs) b = .ok (true, b')) :
    Grants key (.acquireLock (lockKey key) token lockTtlMs) b := by
  refine ⟨token, rfl, ?_⟩
  simp only [perform] at h
  split at h
  · cases h
  · rename_i hfree
    cases hheld : b.held (lockKey key) with
    | none => rfl
    | some lock => exact absurd (by rw [hheld]; rfl) hfree

theorem logs_acquire {token : ℕ} {post : Log cfg → Bool → Prop} (attempts : ℕ)
    (hQ : ∀ l₂ b, Q (l ++ l₂) (.acquireLock (lockKey key) token lockTtlMs) b)
    (hfail : ∀ l₂, post (l ++ l₂) false)
    (hgrant : ∀ l₂ y, (∀ x ∈ l₂, Quiet x.op) → Grants key y.op y.before → post (l ++ (l₂ ++ [y])) true) (l₂ : Log cfg)
    (hl₂ : ∀ x ∈ l₂, Quiet x.op) : Logs (A := carts cfg) Q (acquire key token attempts) post (l ++ l₂) := by
  induction attempts generalizing l₂ with
  | zero => exact hfail l₂
  | succ attempts ih =>
    refine logs_bind (logs_trans fun n b a b' hperf => ⟨hQ l₂ b, ?_⟩)
    rw [List.append_assoc]
    split
    · rename_i ha
      subst ha
      exact hgrant l₂ _ hl₂ (acquireLock_grants hperf)
    · refine ih _ fun x hx => ?_
      rcases List.mem_append.1 hx with hx | hx
      · exact hl₂ x hx
      · obtain rfl := List.mem_singleton.1 hx
        trivial

/-- The rule of `withCartLock`. -/
theorem logs_withCartLock {operation : Procedure α} {post : Log cfg → α → Prop} (hrandom : ∀ b, Q l .randomUUID b)
    (hacquire : ∀ l' token b, l <+: l' → Drawn token l' → Q l' (.acquireLock (lockKey key) token lockTtlMs) b)
    (hrelease : ∀ l' token b, l <+: l' → Drawn token l' → Q l' (.releaseLock (lockKey key) token) b)
    (h : ∀ l₂ y, (∀ x ∈ l₂, Quiet x.op) → Grants key y.op y.before →
      Logs (A := carts cfg) Q operation (fun l' a => ∀ z, Releases key z.op → post (l' ++ [z]) a) (l ++ (l₂ ++ [y]))) :
    Logs (A := carts cfg) Q (withCartLock key operation) post l := by
  unfold withCartLock
  refine logs_bind (logs_trans fun n b token b' hperf => ⟨hrandom b, ?_⟩)
  have hdrawn : Drawn token (l ++ [⟨n, .randomUUID, b⟩] : Log cfg) := by
    refine ⟨⟨n, .randomUUID, b⟩, List.mem_append_right _ List.mem_cons_self, rfl, ?_⟩
    cases hperf
    rfl
  have hpre : ∀ l₂, l <+: (l ++ [⟨n, .randomUUID, b⟩]) ++ l₂ := fun l₂ => ⟨_, (List.append_assoc ..).symm⟩
  refine logs_bind ?_
  have hacquired : Logs (A := carts cfg) Q (acquire key token 20) (fun l' acquired => Logs (A := carts cfg) Q (do
      Proc.ensure (acquired = true) (.serviceUnavailable "Giỏ hàng đang được cập nhật, vui lòng thử lại.")
      let result ← operation.catching (releaseWith key token)
      act (.releaseLock (lockKey key) token)
      pure result) post l') (l ++ [⟨n, .randomUUID, b⟩] ++ []) := logs_acquire 20
    (fun l₂ b => hacquire _ token b (hpre l₂) (hdrawn.mono ⟨l₂, rfl⟩)) (fun l₂ => logs_bind (logs_ensure fun hfalse => (nomatch hfalse))) ?_ []
    fun x hx => (nomatch hx)
  · rwa [List.append_nil] at hacquired
  · intro l₂ y hquiet hgrants
    refine logs_bind (logs_ensure fun _ => ?_)
    refine logs_bind ?_
    have hbody := h (⟨n, .randomUUID, b⟩ :: l₂) y (fun x hx => by
      rcases List.mem_cons.1 hx with rfl | hx
      · trivial
      · exact hquiet x hx) hgrants
    have hlist : l ++ (⟨n, .randomUUID, b⟩ :: l₂ ++ [y]) = l ++ [⟨n, .randomUUID, b⟩] ++ (l₂ ++ [y]) := by simp
    rw [hlist] at hbody
    have hlong := hbody.extends (List.prefix_append (l ++ [⟨n, .randomUUID, b⟩]) (l₂ ++ [y]))
    refine (logs_catching_from (hlong.mono ?_) (List.prefix_append (l ++ [⟨n, .randomUUID, b⟩]) (l₂ ++ [y])) ?_)
    · rintro l' a ⟨hl', hpost⟩
      refine logs_bind (logs_trans fun n' b' _ _ _ => ⟨hrelease l' token b' ((List.prefix_append _ _).trans hl') (hdrawn.mono hl'), ?_⟩)
      exact hpost _ ⟨token, rfl⟩
    · intro l' e hl'
      exact logs_bind (logs_trans fun n' b' _ _ _ =>
        ⟨hrelease l' token b' ((List.prefix_append _ _).trans hl') (hdrawn.mono hl'), trivial⟩)

end Programs

end Balii.Carts
