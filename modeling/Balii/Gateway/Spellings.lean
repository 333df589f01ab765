import Balii.Gateway.Requests
/-!
# Spellings — the paths the gateway's guards recognise

A guard looks at the text of the path, the router at what the text means.  They agree where the client wrote the path of the
handler itself.
-/
namespace Balii.Gateway

open Http

/-- **The guards cover the request**: what the gateway has for the handler's own path, it has for the request. -/
def Covered (method : Method) (path : Text) : Prop :=
  ∀ service h, handlerOf method path = some (service, h) →
    (∀ rule, getRule h.method h.path = some rule → getRule method path = some rule) ∧
      (isInternalOnlyRequest h.method h.path = true → isInternalOnlyRequest method path = true)

/-- The path as a rule wants it: those of the cart and the fitting room take what goes to them at all, that of the chatbot asks how it
begins, the others for the path of the handler in any case. -/
def RuleSpelt (service : Service) (h : Handler) (path : Text) : Prop :=
  match service with
  | .cart | .tryOn => True
  | .chatbot => "/chatbot/chat".toList <+: lower path ∨ "/chatbot/recommendations".toList <+: lower path
  | _ => lower path = h.path

/-- **The request is spelt as the guards want it**: a rule asks for what `RuleSpelt` says; a block for the method of the handler and
its path, with no slash or dot segment more and in small letters. -/
def Spelt (method : Method) (path : Text) : Prop :=
  ∀ service h, handlerOf method path = some (service, h) →
    ((getRule h.method h.path).isSome → RuleSpelt service h path) ∧
      (isInternalOnlyRequest h.method h.path = true → method = h.method ∧ spells (segments h.path) (segments path) = true)

/-! ## The rules -/

section Rules
variable {method : Method} {path a b : Text} {service : Service} {h : Handler} {rule : RateRule}

/-- Beginning with one text, a path does not begin with another that goes a different way. -/
theorem apart (ha : a <+: path) (hab : ¬ a <+: b) (hba : ¬ b <+: a) : path ≠ b ∧ ¬ b <+: path := by
  have hno : ¬ b <+: path := by
    intro hb
    rcases List.prefix_or_prefix_of_prefix ha hb with h | h
    · exact hab h
    · exact hba h
  refine ⟨?_, hno⟩
  rintro rfl
  exact hno List.prefix_rfl

theorem getRule_lower : getRule method (lower path) = getRule method path := by
  unfold getRule
  rw [lower_lower]

/-- The paths that a rule compares whole. -/
def wholePaths : List Text :=
  ["/auth/login".toList, "/auth/forgot-password".toList, "/auth/resend-verification".toList, "/auth/register".toList,
    "/auth/reset-password".toList, "/auth/refresh".toList, "/payments".toList]

def prefixRules : List String := ["try-on", "chatbot", "cart-mutation"]

/-- A text by its characters: to the kernel it is its bytes. -/
theorem toList_of_eq {s : String} {l : Text} (h : s = String.ofList l) : s.toList = l := by
  rw [h, String.toList_ofList]

theorem ite_some {α : Type} {c : Prop} [Decidable c] {x y : α} {o : Option α} (h : (if c then some x else o) = some y) :
    (c ∧ x = y) ∨ o = some y := by
  by_cases hc : c
  · rw [if_pos hc] at h
    exact .inl ⟨hc, Option.some.inj h⟩
  · rw [if_neg hc] at h
    exact .inr h

/-- What a rule that was found has seen of the path. -/
theorem getRule_cases (hrule : getRule method path = some rule) :
    (lower path ∈ wholePaths ∧ rule.name ∉ prefixRules) ∨ rule = ⟨"try-on", 10, 60 * 60⟩ ∨
      (rule = ⟨"chatbot", 30, 60⟩ ∧ ("/chatbot/chat".toList <+: lower path ∨ "/chatbot/recommendations".toList <+: lower path)) ∨
        rule = ⟨"cart-mutation", 120, 60⟩ := by
  unfold getRule at hrule
  unfold wholePaths
  generalize "/auth/login".toList = login at hrule ⊢
  generalize "/auth/forgot-password".toList = forgot at hrule ⊢
  generalize "/auth/resend-verification".toList = resend at hrule ⊢
  generalize "/auth/register".toList = register at hrule ⊢
  generalize "/auth/reset-password".toList = reset at hrule ⊢
  generalize "/auth/refresh".toList = refresh at hrule ⊢
  generalize "/try-on".toList = tryOn at hrule ⊢
  generalize "/chatbot/chat".toList = chat at hrule ⊢
  generalize "/chatbot/recommendations".toList = recommendations at hrule ⊢
  generalize "/payments".toList = payments at hrule ⊢
  generalize "/cart".toList = cart at hrule ⊢
  dsimp only at hrule
  rcases ite_some hrule with ⟨h, rfl⟩ | hrule
  · exact .inl ⟨by simp [h.2], by decide⟩
  rcases ite_some hrule with ⟨h, rfl⟩ | hrule
  · have hmem := List.contains_iff_mem.1 h.2
    simp only [List.mem_cons, List.not_mem_nil, or_false] at hmem
    exact .inl ⟨by rcases hmem with h | h <;> simp [h], by decide⟩
  rcases ite_some hrule with ⟨h, rfl⟩ | hrule
  · exact .inl ⟨by simp [h.2], by decide⟩
  rcases ite_some hrule with ⟨h, rfl⟩ | hrule
  · exact .inl ⟨by simp [h.2], by decide⟩
  rcases ite_some hrule with ⟨h, rfl⟩ | hrule
  · exact .inl ⟨by simp [h.2], by decide⟩
  rcases ite_some hrule with ⟨-, rfl⟩ | hrule
  · exact .inr (.inl rfl)
  rcases ite_some hrule with ⟨h, rfl⟩ | hrule
  · exact .inr (.inr (.inl ⟨rfl, h.2⟩))
  rcases ite_some hrule with ⟨h, rfl⟩ | hrule
  · exact .inl ⟨by simp [h.2], by decide⟩
  rcases ite_some hrule with ⟨-, rfl⟩ | hrule
  · exact .inr (.inr (.inr rfl))
  cases hrule

theorem wholePaths_of_getRule (hrule : getRule method path = some rule) (hname : rule.name ∉ prefixRules) :
    lower path ∈ wholePaths := by
  rcases getRule_cases hrule with ⟨hwhole, -⟩ | rfl | ⟨rfl, -⟩ | rfl
  · exact hwhole
  · exact absurd (by decide) hname
  · exact absurd (by decide) hname
  · exact absurd (by decide) hname

/-- The other rules look at how the path begins. -/
theorem getRule_of_notWhole (h : lower path ∉ wholePaths) : getRule method path =
    if method = .post ∧ "/try-on".toList <+: lower path then some ⟨"try-on", 10, 60 * 60⟩
    else if method = .post ∧ ("/chatbot/chat".toList <+: lower path ∨ "/chatbot/recommendations".toList <+: lower path) then
      some ⟨"chatbot", 30, 60⟩
    else if [Method.post, .patch, .delete].contains method ∧ "/cart".toList <+: lower path then some ⟨"cart-mutation", 120, 60⟩
    else none := by
  simp only [wholePaths, List.mem_cons, List.not_mem_nil, or_false, not_or] at h
  obtain ⟨h₁, h₂, h₃, h₄, h₅, h₆, h₇⟩ := h
  unfold getRule
  simp only [h₁, h₂, h₃, h₄, h₅, h₆, h₇, and_false, if_false, List.contains_eq_mem, List.mem_cons, List.not_mem_nil, or_self,
    decide_false, Bool.false_eq_true]

theorem notWhole_of_part (ha : a <+: lower path) (h : ∀ b ∈ wholePaths, ¬ a <+: b ∧ ¬ b <+: a) : lower path ∉ wholePaths :=
  fun hmem => (apart ha (h _ hmem).1 (h _ hmem).2).1 rfl

/-- The paths that a rule compares by their beginning are none of those it compares whole. -/
theorem parts_notWhole : ∀ a ∈ ["/try-on".toList, "/chatbot/chat".toList, "/chatbot/recommendations".toList, "/cart".toList],
    ∀ b ∈ wholePaths, ¬ a <+: b ∧ ¬ b <+: a := by
  unfold wholePaths
  rw [toList_of_eq (s := "/try-on") rfl, toList_of_eq (s := "/chatbot/chat") rfl,
    toList_of_eq (s := "/chatbot/recommendations") rfl, toList_of_eq (s := "/cart") rfl,
    toList_of_eq (s := "/auth/login") rfl, toList_of_eq (s := "/auth/forgot-password") rfl,
    toList_of_eq (s := "/auth/resend-verification") rfl, toList_of_eq (s := "/auth/register") rfl,
    toList_of_eq (s := "/auth/reset-password") rfl, toList_of_eq (s := "/auth/refresh") rfl,
    toList_of_eq (s := "/payments") rfl]
  decide

/-- They go different ways. -/
theorem parts_apart : ∀ a ∈ ["/chatbot/chat".toList, "/chatbot/recommendations".toList, "/cart".toList],
    ∀ b ∈ ["/try-on".toList] ++ if a = "/cart".toList then ["/chatbot/chat".toList, "/chatbot/recommendations".toList] else [],
      ¬ a <+: b ∧ ¬ b <+: a := by
  rw [toList_of_eq (s := "/try-on") rfl, toList_of_eq (s := "/chatbot/chat") rfl,
    toList_of_eq (s := "/chatbot/recommendations") rfl, toList_of_eq (s := "/cart") rfl]
  decide

theorem getRule_tryOn (h : "/try-on".toList <+: lower path) : getRule .post path = some ⟨"try-on", 10, 60 * 60⟩ := by
  have hwhole := notWhole_of_part h (parts_notWhole _ (by simp only [List.mem_cons, true_or]))
  rw [getRule_of_notWhole hwhole, if_pos ⟨rfl, h⟩]

theorem getRule_chatbot (h : "/chatbot/chat".toList <+: lower path ∨ "/chatbot/recommendations".toList <+: lower path) :
    getRule .post path = some ⟨"chatbot", 30, 60⟩ := by
  have hapart : lower path ∉ wholePaths ∧ ¬ "/try-on".toList <+: lower path := by
    rcases h with h | h
    · have htryOn := parts_apart _ List.mem_cons_self _ (List.mem_append_left _ List.mem_cons_self)
      exact ⟨notWhole_of_part h (parts_notWhole _ (by simp only [List.mem_cons, true_or, or_true])), (apart h htryOn.1 htryOn.2).2⟩
    · have htryOn := parts_apart _ (List.mem_cons_of_mem _ List.mem_cons_self) _ (List.mem_append_left _ List.mem_cons_self)
      exact ⟨notWhole_of_part h (parts_notWhole _ (by simp only [List.mem_cons, true_or, or_true])), (apart h htryOn.1 htryOn.2).2⟩
  rw [getRule_of_notWhole hapart.1, if_neg fun hc => hapart.2 hc.2, if_pos ⟨rfl, h⟩]

theorem chatbot_of_getRule (hrule : getRule method path = some ⟨"chatbot", 30, 60⟩) :
    "/chatbot/chat".toList <+: lower path ∨ "/chatbot/recommendations".toList <+: lower path := by
  rcases getRule_cases hrule with ⟨-, hname⟩ | h | ⟨-, hbegins⟩ | h
  · exact absurd (by decide) hname
  · exact absurd h (by decide)
  · exact hbegins
  · exact absurd h (by decide)

theorem getRule_cart (h : "/cart".toList <+: lower path) (hmethod : method ∈ [Method.post, .patch, .delete]) :
    getRule method path = some ⟨"cart-mutation", 120, 60⟩ := by
  have hother : ∀ b ∈ ["/try-on".toList, "/chatbot/chat".toList, "/chatbot/recommendations".toList], ¬ b <+: lower path := by
    intro b hb
    have hapart := parts_apart "/cart".toList (by simp only [List.mem_cons, true_or, or_true]) b
    rw [if_pos rfl] at hapart
    exact (apart h (hapart hb).1 (hapart hb).2).2
  have hwhole := notWhole_of_part h (parts_notWhole _ (by simp only [List.mem_cons, true_or, or_true]))
  rw [getRule_of_notWhole hwhole, if_neg fun hc => hother _ List.mem_cons_self hc.2,
    if_neg fun hc => hc.2.elim (hother _ (List.mem_cons_of_mem _ List.mem_cons_self))
      (hother _ (List.mem_cons_of_mem _ (List.mem_cons_of_mem _ List.mem_cons_self))), if_pos ⟨List.contains_iff_mem.2 hmethod, h⟩]

/-! ## Where a request goes -/

theorem prefix_of_proxyTarget (h : proxyTarget path = some service) : ∃ r ∈ routeTargets, r.2 = service ∧ r.1.toList <+: path := by
  unfold proxyTarget at h
  split at h
  · cases h
  · obtain ⟨r, hr, rfl⟩ := Option.map_eq_some_iff.1 h
    refine ⟨r, List.mem_of_find?_eq_some hr, rfl, ?_⟩
    have hsome := List.find?_some hr
    rw [decide_eq_true_eq] at hsome
    rcases hsome with rfl | hprefix
    · exact List.prefix_rfl
    · exact (List.prefix_append _ _).trans hprefix

theorem lower_prefix (h : a <+: path) (ha : lower a = a) : a <+: lower path := by
  have hmap : lower a <+: lower path := List.IsPrefix.map Char.toLower h
  rwa [ha] at hmap

theorem handlerOf_iff : handlerOf method path = some (service, h) ↔
    proxyTarget path = some service ∧ dispatch (handlers service) method (urlSegments path) = some h := by
  unfold handlerOf
  constructor
  · intro hh
    obtain ⟨service', htarget, hmap⟩ := Option.bind_eq_some_iff.1 hh
    obtain ⟨h', hdispatch, heq⟩ := Option.map_eq_some_iff.1 hmap
    cases heq
    exact ⟨htarget, hdispatch⟩
  · rintro ⟨htarget, hdispatch⟩
    rw [htarget, Option.bind_some, hdispatch]
    rfl

theorem handler_spec (hh : handlerOf method path = some (service, h)) :
    h ∈ handlers service ∧ h.method.serves method = true ∧ fits (segments h.path) (urlSegments path) = true := by
  have hfind := (handlerOf_iff.1 hh).2
  have hserves := List.find?_some hfind
  rw [Bool.and_eq_true] at hserves
  exact ⟨List.mem_of_find?_eq_some hfind, hserves⟩

theorem method_eq (hserves : h.method.serves method = true) (hget : h.method ≠ .get) : method = h.method := by
  simp only [Method.serves, Bool.or_eq_true, beq_iff_eq, Bool.and_eq_true] at hserves
  rcases hserves with heq | ⟨_, heq⟩
  · exact heq
  · exact absurd heq hget

theorem fits_of_isPlain {l : Text} (hpath : lower path = '/' :: l) (hplain : ∀ c ∈ l, isPlain c = true) (t : List Text) :
    fits t (urlSegments path) = fits t (segments ('/' :: l)) := by
  cases path with
  | nil => cases hpath
  | cons c q =>
    obtain ⟨hc, rfl⟩ := List.cons.inj hpath
    obtain rfl := toLower_slash.1 hc
    have hq : ∀ c ∈ q, isPlain c = true := by
      intro c hc
      rw [← isPlain_toLower]
      exact hplain _ (List.mem_map_of_mem hc)
    rw [urlSegments_of_isPlain hq, ← hpath, segments_lower, fits_lower]

theorem wholePaths_plain : wholePaths.all (fun b => b.head? == some '/' && b.tail.all isPlain) = true ∧
    ∀ b ∈ wholePaths, ∀ b' ∈ wholePaths, fits (segments b) (segments b') = true → b' = b := by
  unfold wholePaths
  rw [toList_of_eq (s := "/auth/login") rfl, toList_of_eq (s := "/auth/forgot-password") rfl,
    toList_of_eq (s := "/auth/resend-verification") rfl, toList_of_eq (s := "/auth/register") rfl,
    toList_of_eq (s := "/auth/reset-password") rfl, toList_of_eq (s := "/auth/refresh") rfl,
    toList_of_eq (s := "/payments") rfl]
  decide

/-- **A rule that compares the whole path** finds a request to its handler exactly under the path of the handler. -/
theorem whole_rule_iff (hrule : getRule h.method h.path = some rule) (hmethod : h.method = .post) (hpath : h.path ∈ wholePaths)
    (hname : rule.name ∉ prefixRules) (hfits : fits (segments h.path) (urlSegments path) = true) :
    getRule .post path = some rule ↔ lower path = h.path := by
  rw [hmethod] at hrule
  constructor
  · intro hgot
    have hwhole := wholePaths_of_getRule hgot hname
    have hplain : ∀ b ∈ wholePaths, ∃ l, b = '/' :: l ∧ ∀ c ∈ l, isPlain c = true := by
      intro b hb
      have := List.all_eq_true.1 wholePaths_plain.1 b hb
      rw [Bool.and_eq_true, beq_iff_eq, List.all_eq_true] at this
      cases b with
      | nil => cases this.1
      | cons c l =>
        cases this.1
        exact ⟨l, rfl, this.2⟩
    obtain ⟨l, hl, hlplain⟩ := hplain _ hwhole
    rw [fits_of_isPlain hl hlplain, ← hl] at hfits
    exact wholePaths_plain.2 _ hpath _ hwhole hfits
  · intro heq
    rw [← getRule_lower, heq, hrule]

/-! The paths of the handlers as characters: texts are compared by these, for to the kernel a text is its bytes. -/

theorem on_nil : on method [] = [] := rfl

theorem on_cons {s : String} {rest : List String} {l : Text} {hs : List Handler} (h : s = String.ofList l) (hr : on method rest = hs) :
    on method (s :: rest) = ⟨method, l⟩ :: hs := by
  rw [← hr, h]
  simp [on]

theorem append_spelt {l₁ l₂ l₁' l₂' : List Handler} (h₁ : l₁ = l₁') (h₂ : l₂ = l₂') : l₁ ++ l₂ = l₁' ++ l₂' := by
  rw [h₁, h₂]

theorem all_of_spelt {l l' : List Handler} {p : Handler → Bool} (h : l = l') (hall : l'.all p = true) : l.all p = true := by
  rw [h, hall]

/-- What a rule is about, service by service. -/
theorem ruled_handlers : ∀ service, ∀ h ∈ handlers service, ∀ rule, getRule h.method h.path = some rule →
    match service with
    | .cart => h.method ∈ [Method.post, .patch, .delete] ∧ rule = ⟨"cart-mutation", 120, 60⟩
    | .tryOn => h.method = .post ∧ rule = ⟨"try-on", 10, 60 * 60⟩
    | .chatbot => h.method = .post ∧ rule = ⟨"chatbot", 30, 60⟩
    | _ => h.method = .post ∧ h.path ∈ wholePaths ∧ rule.name ∉ prefixRules := by
  have hcheck : ∀ (l : List Handler) (p : Handler → RateRule → Prop) [∀ h r, Decidable (p h r)],
      l.all (fun h => (getRule h.method h.path).all fun r => p h r) = true → ∀ h ∈ l, ∀ rule, getRule h.method h.path = some rule → p h rule := by
    intro l p _ hall h hh rule hrule
    have := List.all_eq_true.1 hall h hh
    rw [hrule] at this
    exact of_decide_eq_true this
  intro service
  cases service <;> refine hcheck _ _ ?_ <;> apply all_of_spelt <;>
    first
    | (unfold getRule
       try unfold wholePaths
       rw [toList_of_eq (s := "/try-on") rfl, toList_of_eq (s := "/chatbot/chat") rfl,
         toList_of_eq (s := "/chatbot/recommendations") rfl, toList_of_eq (s := "/cart") rfl,
         toList_of_eq (s := "/auth/login") rfl, toList_of_eq (s := "/auth/forgot-password") rfl,
         toList_of_eq (s := "/auth/resend-verification") rfl, toList_of_eq (s := "/auth/register") rfl,
         toList_of_eq (s := "/auth/reset-password") rfl, toList_of_eq (s := "/auth/refresh") rfl,
         toList_of_eq (s := "/payments") rfl]
       decide)
    | (show (_ ++ _ : List Handler) = _
       repeat' first | apply append_spelt | apply on_cons rfl | exact on_nil)

theorem begins_of_handlerOf (hh : handlerOf method path = some (service, h)) (ha : lower a = a)
    (honly : ∀ r ∈ routeTargets, r.2 = service → r.1.toList = a) : a <+: lower path := by
  obtain ⟨r, hr, hservice, hprefix⟩ := prefix_of_proxyTarget (handlerOf_iff.1 hh).1
  rw [honly r hr hservice] at hprefix
  exact lower_prefix hprefix ha

theorem rule_iff (hh : handlerOf method path = some (service, h)) (hrule : getRule h.method h.path = some rule) :
    getRule method path = some rule ↔ RuleSpelt service h path := by
  obtain ⟨hmem, hserves, hfits⟩ := handler_spec hh
  have hruled := ruled_handlers service h hmem rule hrule
  have hwhole : h.method = .post ∧ h.path ∈ wholePaths ∧ rule.name ∉ prefixRules →
      (getRule method path = some rule ↔ lower path = h.path) := by
    rintro ⟨hpost, hpath, hname⟩
    have hmethod : method = .post := (method_eq hserves (by rw [hpost]; decide)).trans hpost
    rw [hmethod]
    exact whole_rule_iff hrule hpost hpath hname hfits
  cases service with
  | cart =>
    obtain ⟨hmutates, rfl⟩ := hruled
    have hmethod : method = h.method := by
      refine method_eq hserves ?_
      rintro heq
      rw [heq] at hmutates
      exact absurd hmutates (by decide)
    have hbegins := begins_of_handlerOf hh (a := "/cart".toList) (by decide) (by decide)
    exact iff_of_true (getRule_cart hbegins (hmethod ▸ hmutates)) trivial
  | tryOn =>
    obtain ⟨hpost, rfl⟩ := hruled
    have hmethod : method = .post := (method_eq hserves (by rw [hpost]; decide)).trans hpost
    have hbegins := begins_of_handlerOf hh (a := "/try-on".toList) (by decide) (by decide)
    rw [hmethod]
    exact iff_of_true (getRule_tryOn hbegins) trivial
  | chatbot =>
    obtain ⟨hpost, rfl⟩ := hruled
    have hmethod : method = .post := (method_eq hserves (by rw [hpost]; decide)).trans hpost
    rw [hmethod]
    exact ⟨chatbot_of_getRule, getRule_chatbot⟩
  | _ => exact hwhole hruled

end Rules

/-! ## The blocks -/

section Blocks
variable {method : Method} {path : Text} {service : Service} {h : Handler}

/-- The handlers that only other services may call. -/
def internalHandlers : List (Service × Handler) :=
  [(.order, ⟨.patch, "/orders/:id/payment-status".toList⟩), (.cart, ⟨.get, "/cart/internal/checkout".toList⟩),
    (.payment, ⟨.post, "/payments/workflow/start".toList⟩), (.payment, ⟨.post, "/payments/outbox/publish".toList⟩)]

theorem internal_handlers (hmem : h ∈ handlers service) (hinternal : isInternalOnlyRequest h.method h.path = true) :
    (service, h) ∈ internalHandlers := by
  have hcheck : ∀ service, (handlers service).all (fun h =>
      !isInternalOnlyRequest h.method h.path || decide ((service, h) ∈ internalHandlers)) = true := by
    intro service
    cases service <;> apply all_of_spelt <;>
      first
      | (unfold isInternalOnlyRequest isPaymentStatusPath internalHandlers
         rw [toList_of_eq (s := "orders") rfl, toList_of_eq (s := "payment-status") rfl,
           toList_of_eq (s := "/cart/internal/checkout") rfl, toList_of_eq (s := "/payments/workflow/start") rfl,
           toList_of_eq (s := "/payments/outbox/publish") rfl, toList_of_eq (s := "/orders/:id/payment-status") rfl]
         decide)
      | (show (_ ++ _ : List Handler) = _
         repeat' first | apply append_spelt | apply on_cons rfl | exact on_nil)
  have hh := List.all_eq_true.1 (hcheck service) h hmem
  rw [hinternal, Bool.not_true, Bool.false_or, decide_eq_true_eq] at hh
  exact hh

theorem isPaymentStatusPath_iff :
    isPaymentStatusPath path = true ↔ spells (segments "/orders/:id/payment-status".toList) (segments path) = true := by
  have hroute : segments "/orders/:id/payment-status".toList = [[], "orders".toList, ":id".toList, "payment-status".toList] := by
    decide
  have hparams : isParam [] = false ∧ isParam "orders".toList = false ∧ isParam ":id".toList = true ∧
      isParam "payment-status".toList = false := by decide
  unfold isPaymentStatusPath
  rw [hroute]
  generalize "orders".toList = orders at hparams ⊢
  generalize ":id".toList = id at hparams ⊢
  generalize "payment-status".toList = status at hparams ⊢
  obtain ⟨h₀, h₁, h₂, h₃⟩ := hparams
  rcases segments path with _ | ⟨s₀, _ | ⟨s₁, _ | ⟨s₂, _ | ⟨s₃, _ | ⟨s₄, ss⟩⟩⟩⟩⟩ <;>
    simp [spells, h₀, h₁, h₂, h₃, and_assoc]

theorem isInternal_patch : isInternalOnlyRequest .patch path = true ↔ isPaymentStatusPath path = true := by
  unfold isInternalOnlyRequest
  rw [if_neg (c := Method.patch = .get ∧ _) (by rintro ⟨h, _⟩; cases h)]
  by_cases h : isPaymentStatusPath path = true
  · rw [if_pos ⟨rfl, h⟩]
    exact iff_of_true rfl h
  · rw [if_neg fun hc => h hc.2]
    exact iff_of_false (fun hc => nomatch hc) h

theorem isInternal_get : isInternalOnlyRequest .get path = true ↔ path = "/cart/internal/checkout".toList := by
  unfold isInternalOnlyRequest
  rw [if_neg (c := Method.get = .patch ∧ _) (by rintro ⟨h, _⟩; cases h)]
  by_cases h : path = "/cart/internal/checkout".toList
  · rw [if_pos ⟨rfl, h⟩]
    exact iff_of_true rfl h
  · rw [if_neg fun hc => h hc.2]
    exact iff_of_false (fun hc => nomatch hc) h

theorem isInternal_head : isInternalOnlyRequest .head path = false := by
  unfold isInternalOnlyRequest
  rw [if_neg (c := Method.head = .patch ∧ _) (by rintro ⟨h, _⟩; cases h), if_neg (by rintro ⟨h, _⟩; cases h)]
  rfl

theorem isInternal_post : isInternalOnlyRequest .post path = true ↔
    path = "/payments/workflow/start".toList ∨ path = "/payments/outbox/publish".toList := by
  unfold isInternalOnlyRequest
  rw [if_neg (c := Method.post = .patch ∧ _) (by rintro ⟨h, _⟩; cases h), if_neg (by rintro ⟨h, _⟩; cases h), Bool.and_eq_true,
    List.contains_iff_mem, List.mem_cons, List.mem_singleton]
  exact and_iff_right rfl

/-- The other three paths are plain texts, and the two of the payments do not fit each other. -/
theorem internal_texts :
    (∀ p ∈ ["/cart/internal/checkout".toList, "/payments/workflow/start".toList, "/payments/outbox/publish".toList],
      (segments p).all (fun t => !isParam t) = true) ∧
    fits (segments "/payments/workflow/start".toList) (urlSegments "/payments/outbox/publish".toList) = false ∧
    fits (segments "/payments/outbox/publish".toList) (urlSegments "/payments/workflow/start".toList) = false := by
  rw [toList_of_eq (s := "/cart/internal/checkout") rfl, toList_of_eq (s := "/payments/workflow/start") rfl,
    toList_of_eq (s := "/payments/outbox/publish") rfl]
  decide

/-- **A block finds a request to its handler** exactly under the method and the path of the handler. -/
theorem internal_iff (hh : handlerOf method path = some (service, h)) (hinternal : isInternalOnlyRequest h.method h.path = true) :
    isInternalOnlyRequest method path = true ↔ method = h.method ∧ spells (segments h.path) (segments path) = true := by
  obtain ⟨hmem, hserves, hfits⟩ := handler_spec hh
  have hlisted := internal_handlers hmem hinternal
  simp only [internalHandlers, List.mem_cons, Prod.mk.injEq, List.not_mem_nil, or_false] at hlisted
  have htexts : ∀ {p : Text}, (segments p).all (fun t => !isParam t) = true → (spells (segments p) (segments path) = true ↔ path = p) := by
    intro p hp
    have htext : ∀ t ∈ segments p, isParam t = false := by
      intro t ht
      simpa only [Bool.not_eq_true'] using List.all_eq_true.1 hp t ht
    rw [spells_texts htext, segments_injective]
  obtain ⟨hplain, hstart, hpublish⟩ := internal_texts
  rcases hlisted with ⟨_, rfl⟩ | ⟨_, rfl⟩ | ⟨_, rfl⟩ | ⟨_, rfl⟩
  · obtain rfl : method = .patch := method_eq hserves (by decide)
    rw [← isPaymentStatusPath_iff, isInternal_patch]
    exact (and_iff_right rfl).symm
  · rw [htexts (hplain _ (by simp only [List.mem_cons, true_or]))]
    simp only [Method.serves, Bool.or_eq_true, beq_iff_eq, Bool.and_eq_true] at hserves
    rcases hserves with rfl | ⟨rfl, _⟩
    · rw [isInternal_get]
      exact (and_iff_right rfl).symm
    · rw [isInternal_head]
      exact iff_of_false (fun h => nomatch h) fun h => nomatch h.1
  · obtain rfl : method = .post := method_eq hserves (by decide)
    have hother : path ≠ "/payments/outbox/publish".toList := by
      rintro rfl
      rw [hstart] at hfits
      cases hfits
    rw [htexts (hplain _ (by simp only [List.mem_cons, true_or, or_true])), isInternal_post]
    exact ⟨fun h => ⟨rfl, h.resolve_right hother⟩, fun h => .inl h.2⟩
  · obtain rfl : method = .post := method_eq hserves (by decide)
    have hother : path ≠ "/payments/workflow/start".toList := by
      rintro rfl
      rw [hpublish] at hfits
      cases hfits
    rw [htexts (hplain _ (by simp only [List.mem_cons, true_or, or_true])), isInternal_post]
    exact ⟨fun h => ⟨rfl, h.resolve_left hother⟩, fun h => .inr h.2⟩

end Blocks

/-- **The guards cover a request exactly when it is spelt as they want it.** -/
theorem covered_iff_spelt (method : Method) (path : Text) : Covered method path ↔ Spelt method path := by
  refine forall_congr' fun service => forall_congr' fun h => forall_congr' fun hh => and_congr ?_ ?_
  · constructor
    · intro hcovered hsome
      obtain ⟨rule, hrule⟩ := Option.isSome_iff_exists.1 hsome
      exact (rule_iff hh hrule).1 (hcovered rule hrule)
    · intro hspelt rule hrule
      exact (rule_iff hh hrule).2 (hspelt (Option.isSome_iff_exists.2 ⟨rule, hrule⟩))
  · exact forall_congr' fun hinternal => internal_iff hh hinternal

/-- A login with a slash at the end is not counted. -/
theorem loginSlash_uncovered : ¬ ∀ method path, Covered method path := by
  intro hall
  have hfacts : handlerOf .post "/auth/login/".toList = some (.user, ⟨.post, "/auth/login".toList⟩) ∧
      getRule .post "/auth/login/".toList = none ∧ getRule .post "/auth/login".toList = some ⟨"login", 5, 15 * 60⟩ := by decide
  obtain ⟨hhandler, hrule, hcounted⟩ := hfacts
  have hgot := (hall _ _ _ _ hhandler).1 _ hcounted
  rw [hrule] at hgot
  cases hgot

end Balii.Gateway
