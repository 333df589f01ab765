import Balii.TryOn.Service
/-!
# TryOn.Expiry — media are kept until they expire

The cleanup looks at the expiry once.  A row that a user saves while the cleanup is on its way to it has another expiry by the time
its media are removed.
-/
namespace Balii.TryOn

open Rowdb Rowdb.Atomic List

def Expired (s : State) (row : History) : Prop := ∃ t, row.expiresAt = some t ∧ t ≤ s.now

/-- No two rows have one image. -/
def OneRowEach (s : State) : Prop :=
  ∀ id id' row row' publicId, s.histories.lookup id = some row → row.cloudinaryPublicId = some publicId →
    s.histories.lookup id' = some row' → row'.cloudinaryPublicId = some publicId → id = id'

/-- The operation takes the image away, at Cloudinary or in the row. -/
def Op.Removes (op : Op) (id publicId : String) : Prop := op = .destroy publicId ∨ op = .clearMedia id publicId

/-! ## Steps -/

section Steps
variable {s s' : State} {op : Op} {a : op.Res} {id publicId : String} {row row' : History}

theorem now_le (h : perform op s = .ok (a, s')) : s.now ≤ s'.now := by
  cases op with
  | pass ms =>
    cases h
    exact Nat.le_add_right _ _
  | claim id userId expiresAt =>
    unfold perform at h
    dsimp only at h
    split at h
    · cases h
      exact le_rfl
    · cases h
      exact le_rfl
  | _ =>
    cases h
    exact le_rfl

/-- **A row changes only by a cleanup, or by the user who saves it.** -/
theorem row_cases (h : perform op s = .ok (a, s')) (hrow' : s'.histories.lookup id = some row') :
    ∃ row, s.histories.lookup id = some row ∧ (row' = row ∨ (∃ publicId, op = .clearMedia id publicId ∧ row' = row.cleared publicId) ∨
      ∃ userId t, op = .claim id userId t ∧ row.userId = none ∧ row' = row.claimedBy userId t) := by
  cases op with
  | clearMedia id' publicId =>
    cases h
    rw [AList.lookup_modify] at hrow'
    split at hrow'
    · rename_i hid
      subst hid
      obtain ⟨row, hrow, rfl⟩ := Option.map_eq_some_iff.1 hrow'
      exact ⟨row, hrow, .inr (.inl ⟨publicId, rfl, rfl⟩)⟩
    · exact ⟨row', hrow', .inl rfl⟩
  | claim id' userId t =>
    unfold perform at h
    dsimp only at h
    split at h
    · rename_i hfree
      cases h
      rw [AList.lookup_modify] at hrow'
      split at hrow'
      · rename_i hid
        subst hid
        obtain ⟨row, hrow, rfl⟩ := Option.map_eq_some_iff.1 hrow'
        rw [hrow, Option.any_some, Option.isNone_iff_eq_none] at hfree
        exact ⟨row, hrow, .inr (.inr ⟨userId, t, rfl, hfree, rfl⟩)⟩
      · exact ⟨row', hrow', .inl rfl⟩
    · cases h
      exact ⟨row', hrow', .inl rfl⟩
  | _ =>
    cases h
    exact ⟨row', hrow', .inl rfl⟩

theorem cleared_publicId {p : String} (h : (row.cleared p).cloudinaryPublicId = some publicId) : row.cloudinaryPublicId = some publicId := by
  unfold History.cleared at h
  split at h
  · cases h
  · exact h

theorem cleared_keeps (p : String) : (row.cleared p).userId = row.userId ∧ (row.cleared p).expiresAt = row.expiresAt := by
  unfold History.cleared
  split <;> exact ⟨rfl, rfl⟩

/-- A row gets no image that it did not have. -/
theorem publicId_before (h : perform op s = .ok (a, s')) (hrow' : s'.histories.lookup id = some row')
    (hpublic : row'.cloudinaryPublicId = some publicId) :
    ∃ row, s.histories.lookup id = some row ∧ row.cloudinaryPublicId = some publicId := by
  obtain ⟨row, hrow, rfl | ⟨p, -, rfl⟩ | ⟨userId, t, -, -, rfl⟩⟩ := row_cases h hrow'
  · exact ⟨_, hrow, hpublic⟩
  · exact ⟨row, hrow, cleared_publicId hpublic⟩
  · exact ⟨row, hrow, hpublic⟩

theorem oneRowEach_step (h : perform op s = .ok (a, s')) (hs : OneRowEach s) : OneRowEach s' := by
  intro id id' row row' publicId hrow hpublic hrow' hpublic'
  obtain ⟨old, hold, hoid⟩ := publicId_before h hrow hpublic
  obtain ⟨old', hold', hoid'⟩ := publicId_before h hrow' hpublic'
  exact hs id id' old old' publicId hold hoid hold' hoid'

end Steps

/-! ## What a call has done when it removes -/

section Logs
variable {cfg : Config} {l l' : List (Act (tryOn cfg))} {id publicId : String}

/-- The call has selected the row, with the image, for its expiry. -/
def SelectedIn (l : List (Act (tryOn cfg))) (id publicId : String) : Prop :=
  ∃ x ∈ l, x.op = .selectExpired ∧ ∃ row, (id, row) ∈ x.before.expired ∧ row.cloudinaryPublicId = some publicId

def Allowed (cfg : Config) (l : List (Act (tryOn cfg))) (op : Op) (_ : State) : Prop :=
  match op with
  | .destroy publicId => ∃ id, SelectedIn l id publicId
  | .clearMedia id publicId => SelectedIn l id publicId
  | _ => True

theorem SelectedIn.mono (h : SelectedIn l id publicId) (hl : l <+: l') : SelectedIn l' id publicId := by
  obtain ⟨x, hx, hselects⟩ := h
  exact ⟨x, hl.subset hx, hselects⟩

theorem logs_expireHistoryMedia {history : String × History} {post : List (Act (tryOn cfg)) → Unit → Prop}
    (h : ∀ publicId, history.2.cloudinaryPublicId = some publicId → SelectedIn l history.1 publicId)
    (hpost : ∀ l' a, l <+: l' → post l' a) : Logs (A := tryOn cfg) (Allowed cfg) (expireHistoryMedia history) post l := by
  unfold expireHistoryMedia
  cases hpublic : nonEmpty history.2.cloudinaryPublicId with
  | none => exact hpost l () prefix_rfl
  | some publicId =>
    have hselected := h publicId (Option.filter_eq_some_iff.1 hpublic).1
    refine logs_bind (logs_trans fun n b a b' _ => ⟨⟨_, hselected⟩, logs_trans fun n' b a b' _ => ?_⟩)
    refine ⟨hselected.mono (prefix_append _ _), hpost _ _ ?_⟩
    rw [append_assoc]
    exact prefix_append _ _

theorem logs_expireAll : ∀ {histories : List (String × History)} {l : List (Act (tryOn cfg))},
    (∀ history ∈ histories, ∀ publicId, history.2.cloudinaryPublicId = some publicId → SelectedIn l history.1 publicId) →
      Logs (A := tryOn cfg) (Allowed cfg) (expireAll histories) (fun _ _ => True) l
  | [], _, _ => trivial
  | history :: rest, l, h => by
    have hrest : ∀ l' : List (Act (tryOn cfg)), l <+: l' → Logs (A := tryOn cfg) (Allowed cfg) (expireAll rest) (fun _ _ => True) l' :=
      fun l' hl => logs_expireAll fun x hx publicId hpublic => (h x (mem_cons_of_mem _ hx) publicId hpublic).mono hl
    refine logs_bind (logs_catching_from (logs_expireHistoryMedia (h history mem_cons_self) ?_) prefix_rfl ?_)
    · exact fun l' _ hl => hrest l' hl
    · exact fun l' _ hl => hrest l' hl

theorem logs_findSaved {userId : Uuid} {message : String} :
    Logs (A := tryOn cfg) (Allowed cfg) (findSaved id userId message) (fun _ _ => True) l :=
  logs_bind (logs_trans fun _ _ _ _ _ => ⟨trivial, logs_bind (logs_need fun _ _ => trivial)⟩)

theorem proc_logs (call : Call) : Logs (A := tryOn cfg) (Allowed cfg) (call.proc cfg) (fun _ _ => True) [] := by
  cases call with
  | cleanupExpiredMedia =>
    refine logs_bind (logs_answer fun repository => ?_)
    by_cases havailable : repository.available = true
    · rw [if_pos havailable]
      refine logs_bind (logs_trans fun n b expired b' hperf => ⟨trivial, ?_⟩)
      cases hperf
      refine logs_bind (logs_expireAll fun history hmem publicId hpublic => ?_)
      exact ⟨_, mem_append_right _ mem_cons_self, rfl, history.2, hmem, hpublic⟩
    · rw [if_neg havailable]
      trivial
  | saveTryOnResult resultId userId =>
    refine logs_bind (logs_need fun resolvedUserId _ => logs_bind (logs_answer fun repository => logs_bind (logs_ensure fun _ => ?_)))
    refine logs_bind (logs_trans fun _ _ found _ _ => ⟨trivial, logs_bind (logs_need fun history _ => ?_)⟩)
    refine logs_bind (logs_ensure fun _ => logs_bind (logs_ensure fun _ => ?_))
    by_cases hfree : history.2.userId = none
    · rw [if_pos hfree]
      refine logs_bind (logs_trans fun _ _ now _ _ => ⟨trivial, logs_bind (logs_trans fun _ _ affected _ _ => ⟨trivial, ?_⟩)⟩)
      by_cases hone : affected = 1
      · rw [if_pos hone]
        exact logs_findSaved
      · rw [if_neg hone]
        exact logs_findSaved
    · rw [if_neg hfree]
      exact logs_findSaved
  | pass ms => exact logs_bind (logs_trans fun _ _ _ _ _ => ⟨trivial, trivial⟩)

end Logs

/-! ## Runs -/

section Runs
variable {cfg : Config}

/-- **Media are kept until they expire**: what is removed of a row, at Cloudinary or in the row, is removed after its expiry. -/
def MediaKept (r : (tryOn cfg).Run OneRowEach) : Prop :=
  ∀ n i call op b id row publicId, Does r.trace n i call op b → op.Removes id publicId →
    (r.state n).histories.lookup id = some row → row.cloudinaryPublicId = some publicId → Expired (r.state n) row

/-- At `k`, between the selection of the row at `m` and the removal of its image at `n`, a user saves the row. -/
structure SavedUnder (r : (tryOn cfg).Run OneRowEach) (m k n : ℕ) (id : String) (expiresAt : ℕ) : Prop where
  after : m < k
  before : k < n
  selected : ∃ i call call' b op b' row publicId, Does r.trace m i call .selectExpired b ∧ (id, row) ∈ b.expired ∧
    row.cloudinaryPublicId = some publicId ∧ Does r.trace n i call' op b' ∧ op.Removes id publicId ∧
    ∃ row', (r.state n).histories.lookup id = some row' ∧ row'.cloudinaryPublicId = some publicId
  saved : ∃ j call userId b row, Does r.trace k j call (.claim id userId expiresAt) b ∧ b.histories.lookup id = some row ∧
    row.userId = none

/-- **No result is saved under a cleanup**, unless its new expiry has passed by the time its media are removed. -/
def NoneSavedUnder (r : (tryOn cfg).Run OneRowEach) : Prop :=
  ∀ m k n id t, SavedUnder r m k n id t → t ≤ (r.state n).now

variable {r : (tryOn cfg).Run OneRowEach} {m k n : ℕ} {id publicId : String} {row row' : History}

theorem now_mono (hmn : m ≤ n) : (r.state m).now ≤ (r.state n).now :=
  keeps_between (P := fun s : State => (r.state m).now ≤ s.now) r.lawful hmn
    (fun _ _ _ _ _ _ _ _ _ _ hperf hle => hle.trans (now_le hperf)) le_rfl

theorem oneRowEach (n : ℕ) : OneRowEach (r.state n) :=
  keeps_between (P := OneRowEach) r.lawful (Nat.zero_le n) (fun _ _ _ _ _ _ _ _ _ _ hperf hs => oneRowEach_step hperf hs) r.starts

theorem publicId_at (hmn : m ≤ n) (hrow : (r.state n).histories.lookup id = some row) (hpublic : row.cloudinaryPublicId = some publicId) :
    ∃ old, (r.state m).histories.lookup id = some old ∧ old.cloudinaryPublicId = some publicId := by
  by_contra hnone
  refine keeps_between (P := fun s : State => ¬ ∃ old, s.histories.lookup id = some old ∧ old.cloudinaryPublicId = some publicId)
    r.lawful hmn (fun _ _ _ _ _ _ _ _ _ _ hperf hs hnow => hs ?_) hnone ⟨row, hrow, hpublic⟩
  obtain ⟨row', hrow', hpublic'⟩ := hnow
  exact publicId_before hperf hrow' hpublic'

/-- A row that nobody saves keeps its expiry. -/
theorem expiry_kept (hmn : m ≤ n) (hold : (r.state m).histories.lookup id = some row)
    (hunsaved : ∀ k j call userId t b old, m ≤ k → k < n → Does r.trace k j call (.claim id userId t) b →
      b.histories.lookup id = some old → old.userId ≠ none)
    (hrow : (r.state n).histories.lookup id = some row') : row'.expiresAt = row.expiresAt := by
  refine keeps_between (P := fun s : State => ∀ x, s.histories.lookup id = some x → x.expiresAt = row.expiresAt) r.lawful hmn ?_
    (fun x hx => by rw [Option.some.inj (hx.symm.trans hold)]) row' hrow
  intro k j call op b a b' hmk hkn hdoes hperf hb x hx
  obtain ⟨old, hlookup, rfl | ⟨p, -, rfl⟩ | ⟨userId, t, rfl, hfree, -⟩⟩ := row_cases hperf hx
  · exact hb _ hlookup
  · rw [(cleared_keeps p).2]
    exact hb old hlookup
  · exact absurd hfree (hunsaved k j call userId t b old hmk hkn hdoes hlookup)

/-- A row that was saved keeps the expiry it got. -/
theorem saved_expiry {j : ℕ} {call : Call} {userId : Uuid} {t : ℕ} {b : State} (hkn : k < n)
    (hdoes : Does r.trace k j call (.claim id userId t) b) (hold : b.histories.lookup id = some row) (hfree : row.userId = none)
    (hrow : (r.state n).histories.lookup id = some row') : row'.expiresAt = some t := by
  obtain ⟨-, a, hperf⟩ := hdoes.at r.lawful
  have hafter : ∀ x, (r.state (k + 1)).histories.lookup id = some x → x.userId ≠ none ∧ x.expiresAt = some t := by
    intro x hx
    have hstate : r.state (k + 1) = { b with histories := b.histories.modify id (History.claimedBy userId t) } := by
      change perform (.claim id userId t) b = _ at hperf
      unfold perform at hperf
      dsimp only at hperf
      rw [hold, Option.any_some, hfree, Option.isNone_none, if_pos rfl] at hperf
      exact (congrArg Prod.snd (Except.ok.inj hperf)).symm
    rw [hstate] at hx
    dsimp only at hx
    rw [AList.lookup_modify, if_pos rfl, hold] at hx
    cases hx
    exact ⟨fun h => (nomatch h), rfl⟩
  refine (keeps_between (P := fun s : State => ∀ x, s.histories.lookup id = some x → x.userId ≠ none ∧ x.expiresAt = some t)
    r.lawful (Nat.succ_le_of_lt hkn) ?_ hafter row' hrow).2
  intro k' j' call' op b a b' _ _ _ hperf' hb x hx
  obtain ⟨old, hlookup, rfl | ⟨p, -, rfl⟩ | ⟨userId', t', -, hfree', -⟩⟩ := row_cases hperf' hx
  · exact hb _ hlookup
  · rw [(cleared_keeps p).1, (cleared_keeps p).2]
    exact hb old hlookup
  · exact absurd hfree' (hb old hlookup).1

/-- What is removed of a row was selected, with the row, when it had expired. -/
theorem selected_of_removes {i : ℕ} {call : Call} {op : Op} {b : State} (hdoes : Does r.trace n i call op b) (hremoves : op.Removes id publicId)
    (hrow : (r.state n).histories.lookup id = some row) (hpublic : row.cloudinaryPublicId = some publicId) :
    ∃ m b' old, m < n ∧ Does r.trace m i call .selectExpired b' ∧ (id, old) ∈ b'.expired ∧ old.cloudinaryPublicId = some publicId := by
  obtain ⟨l, hl, hplaces, hallowed⟩ := (meets r.traced fun call => proc_logs call).1 _ _ _ _ _ hdoes
  have hselected : ∃ id', SelectedIn l id' publicId := by
    rcases hremoves with rfl | rfl
    · exact hallowed
    · exact ⟨id, hallowed⟩
  obtain ⟨id', x, hx, hop, old, hmem, hold⟩ := hselected
  have hselects := hl.1 x hx
  rw [hop] at hselects
  have hat : x.before = r.state x.place := (hselects.at r.lawful).1
  have hlookup : (r.state x.place).histories.lookup id' = some old := by
    rw [← hat]
    exact (AList.mem_select.1 ((perm_insertionSort _ _).mem_iff.1 (mem_of_mem_take hmem))).1
  -- the image is that of one row only
  obtain ⟨old', hlookup', hold'⟩ := publicId_at (hplaces x hx).le hrow hpublic
  obtain rfl : id' = id := oneRowEach x.place id' id old old' publicId hlookup hold hlookup' hold'
  exact ⟨x.place, x.before, old, hplaces x hx, hselects, hmem, hold⟩

end Runs

/-- **Media are kept until they expire exactly in the runs in which no result is saved under a cleanup.** -/
theorem mediaKept_iff {cfg : Config} (r : (tryOn cfg).Run OneRowEach) : MediaKept r ↔ NoneSavedUnder r := by
  constructor
  · rintro hkept m k n id t ⟨_, hkn, ⟨i, call, call', b, op, b', row, publicId, _, _, _, hdoes, hremoves, row', hrow', hpublic⟩,
      ⟨j, call'', userId, b'', old, hsaves, hold, hfree⟩⟩
    obtain ⟨t', ht', hle⟩ := hkept n i call' op b' id row' publicId hdoes hremoves hrow' hpublic
    rw [saved_expiry hkn hsaves hold hfree hrow'] at ht'
    exact (Option.some.inj ht') ▸ hle
  · intro hnone n i call op b id row publicId hdoes hremoves hrow hpublic
    obtain ⟨m, b', old, hmn, hselects, hmem, hold⟩ := selected_of_removes hdoes hremoves hrow hpublic
    have hat : b' = r.state m := (hselects.at r.lawful).1
    obtain ⟨hlookup, hexpired⟩ := AList.mem_select.1 ((perm_insertionSort _ _).mem_iff.1 (mem_of_mem_take hmem))
    rw [hat] at hlookup hexpired
    by_cases hsaved : ∃ k j call userId t b old, m < k ∧ k < n ∧ Does r.trace k j call (.claim id userId t) b ∧
        b.histories.lookup id = some old ∧ old.userId = none
    · obtain ⟨k, j, call', userId, t, b'', old', hmk, hkn, hsaves, hold', hfree⟩ := hsaved
      refine ⟨t, saved_expiry hkn hsaves hold' hfree hrow, hnone m k n id t ⟨hmk, hkn, ?_, j, call', userId, b'', old', hsaves, hold', hfree⟩⟩
      exact ⟨i, call, call, b', op, b, old, publicId, hselects, hmem, hold, hdoes, hremoves, row, hrow, hpublic⟩
    · have hsame : row.expiresAt = old.expiresAt := by
        refine expiry_kept hmn.le hlookup (fun k j call' userId t b'' x hmk hkn hsaves hx hfree => hsaved ?_) hrow
        rcases hmk.eq_or_lt with rfl | hmk
        · cases (hselects.unique hsaves).2.2.1
        · exact ⟨k, j, call', userId, t, b'', x, hmk, hkn, hsaves, hx, hfree⟩
      rw [History.isExpired, Bool.and_eq_true, Option.any_eq_true] at hexpired
      obtain ⟨⟨t, ht, hle⟩, _⟩ := hexpired
      exact ⟨t, hsame.trans ht, (of_decide_eq_true hle).trans (now_mono hmn.le)⟩

/-! ## A result saved under a cleanup -/

def sampleConfig : Config where
  tryonResultRetentionDays := none

/-- A finished result of somebody unknown, expired a while ago. -/
def forgotten : State where
  histories := (∅ : Table String History).insert "h1" ⟨none, some "job-1", "completed", some "https://res/h1.jpg", some "h1", some 1000⟩
  images := ["h1"]
  now := 5000

theorem forgotten_oneRowEach : OneRowEach forgotten := by
  have honly : ∀ id row, forgotten.histories.lookup id = some row → id = "h1" := by
    intro id row hrow
    by_contra hid
    rw [forgotten, AList.lookup_insert_ne hid] at hrow
    cases hrow
  intro id id' row row' publicId hrow _ hrow' _
  rw [honly id row hrow, honly id' row' hrow']

/-- The cleanup selects it, user 7 saves it, the cleanup goes on. -/
def savedUnder : (tryOn sampleConfig).Run OneRowEach :=
  .ofSchedule forgotten
    [.arrive .cleanupExpiredMedia, .answer 0 ⟨true, 0⟩, .go 0, .arrive (.saveTryOnResult "job-1" (some 7)), .answer 1 ⟨true, 0⟩, .go 1, .go 1,
      .go 1, .go 0, .go 0] forgotten_oneRowEach

/-- What was just saved for thirty days is gone. -/
theorem savedUnder_removed : ¬ ∀ cfg, ∀ r : (tryOn cfg).Run OneRowEach, MediaKept r := by
  intro hall
  have hact : actAt savedUnder.trace 4 = some (0, Call.cleanupExpiredMedia, Op.destroy "h1") := by decide +kernel
  obtain ⟨b, hdoes⟩ := does_of_actAt hact
  have hsaved : (savedUnder.state 4).histories.lookup "h1" =
      some ⟨some 7, some "job-1", "completed", some "https://res/h1.jpg", some "h1", some 2592005000⟩ := by decide +kernel
  have hnow : (savedUnder.state 4).now = 5000 := by decide +kernel
  obtain ⟨t, ht, hle⟩ := hall sampleConfig savedUnder 4 0 _ _ b "h1" _ "h1" hdoes (.inl rfl) hsaved rfl
  cases ht
  rw [hnow] at hle
  exact absurd hle (by decide)

end Balii.TryOn
