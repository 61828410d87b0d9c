import Mathlib.Data.List.Range
import Mathlib.Tactic.IntervalCases
import RecordRules.Proofs.FieldNames
import RecordRules.Web.Delivery

/-!
# How often a webhook is delivered

A delivery goes on as long as its attempts are worth another one and the number
of retries allows it.  So it makes every attempt up to the first that settles
it, or all that it has, and waits between one attempt and the next.  Its result
is what the last attempt means.
-/

namespace RecordRules

namespace Web

variable {peer : Nat → AttemptResult} {outcome : AttemptResult}
  {config : WebhookConfig} {request : WebhookRequest}

/-! ## Methods -/

def NamesMethod (raw : String) : Prop :=
  ∃ method ∈ ["GET", "POST", "PUT", "PATCH", "DELETE"],
    Text.sameName (Text.trim raw) method = true

theorem namesMethod_iff (raw : String) :
    NamesMethod raw ↔ Text.asciiUpper (Text.trim raw) ∈ methods := by
  have hupper : ∀ method ∈ methods, Text.asciiUpper method = method := by
    decide
  unfold NamesMethod
  rw [show ["GET", "POST", "PUT", "PATCH", "DELETE"] = methods from rfl]
  constructor
  · rintro ⟨method, hmem, hsame⟩
    rwa [(Text.asciiUpper_eq_iff (hupper method hmem)).mpr hsame]
  · intro hmem
    exact ⟨_, hmem, (Text.asciiUpper_eq_iff (hupper _ hmem)).mp rfl⟩

theorem readMethod_of_namesMethod {raw : String} (h : NamesMethod raw) :
    readMethod raw = .ok (Text.asciiUpper (Text.trim raw)) := by
  have hmem := (namesMethod_iff raw).mp h
  simp [readMethod, hmem]

theorem readMethod_of_not_namesMethod {raw : String} (h : ¬ NamesMethod raw) :
    readMethod raw =
      .error (.configuration
        ("unsupported webhook method: " ++
          Text.asciiUpper (Text.trim raw))) := by
  rw [namesMethod_iff] at h
  simp [readMethod, h]

/-! ## Outcomes of an attempt -/

/-- Another attempt may fare better: the server failed, was asked too often, or
did not answer. -/
inductive AttemptResult.WorthAnother : AttemptResult → Prop
  | serverError {code : Nat} :
      500 ≤ code → code ≤ 599 → WorthAnother (.status code)
  | tooMany : WorthAnother (.status 429)
  | unanswered (message : String) : WorthAnother (.transport message)

theorem AttemptResult.worthAnother_iff :
    outcome.WorthAnother ↔ outcome.isRetryable = true := by
  constructor
  · rintro (⟨hlow, hhigh⟩ | _ | _)
    · simp only [isRetryable, Web.isRetryable, Bool.or_eq_true,
        decide_eq_true_eq]
      omega
    · rfl
    · rfl
  · intro h
    cases outcome with
    | status code =>
        simp only [isRetryable, Web.isRetryable, Bool.or_eq_true,
          decide_eq_true_eq, beq_iff_eq] at h
        rcases h with ⟨hlow, hhigh⟩ | rfl
        · exact .serverError hlow (Nat.le_of_lt_succ hhigh)
        · exact .tooMany
    | transport message => exact .unanswered message
    | building message => cases h

def AttemptResult.Succeeds (outcome : AttemptResult) (code : Nat) : Prop :=
  outcome = .status code ∧ 200 ≤ code ∧ code ≤ 299

theorem AttemptResult.WorthAnother.not_succeeds
    (h : outcome.WorthAnother) (code : Nat) : ¬ outcome.Succeeds code := by
  rintro ⟨rfl, hlow, hhigh⟩
  cases h with
  | serverError hfailed _ => omega
  | tooMany => omega

theorem isSuccess_iff {code : Nat} :
    isSuccess code = true ↔ 200 ≤ code ∧ code ≤ 299 := by
  simp only [isSuccess, decide_eq_true_eq]
  omega

theorem conclude_eq_ok_iff
    {url : String} {attempt : Nat} {delivery : WebhookDelivery} :
    conclude url attempt outcome = .ok delivery ↔
      outcome.Succeeds delivery.statusCode ∧ delivery.attempts = attempt := by
  obtain ⟨statusCode, attempts⟩ := delivery
  cases outcome with
  | status code =>
      by_cases hcode : isSuccess code = true
      · have hrange := isSuccess_iff.mp hcode
        simp only [conclude, if_pos hcode, AttemptResult.Succeeds,
          Except.ok.injEq, WebhookDelivery.mk.injEq,
          AttemptResult.status.injEq]
        constructor
        · rintro ⟨rfl, rfl⟩
          exact ⟨⟨rfl, hrange⟩, rfl⟩
        · rintro ⟨⟨rfl, -⟩, rfl⟩
          exact ⟨rfl, rfl⟩
      · simp only [conclude, if_neg hcode, AttemptResult.Succeeds,
          AttemptResult.status.injEq, reduceCtorEq, false_iff]
        rintro ⟨⟨rfl, hrange⟩, -⟩
        exact hcode (isSuccess_iff.mpr hrange)
  | transport message => simp [conclude, AttemptResult.Succeeds]
  | building message => simp [conclude, AttemptResult.Succeeds]

/-- What the sender is told of an attempt that did not succeed. -/
def AttemptResult.complaint (url : String) : AttemptResult → String
  | .status code => url ++ " responded with " ++ statusText code
  | .transport message => message
  | .building message => message

theorem attemptError_eq (url : String) (outcome : AttemptResult) :
    attemptError url outcome =
      .collaborator "webhook" (outcome.complaint url) := by
  cases outcome <;> rfl

theorem conclude_of_not_succeeds {url : String} {attempt : Nat}
    (h : ∀ code, ¬ outcome.Succeeds code) :
    conclude url attempt outcome =
      .error (.collaborator "webhook" (outcome.complaint url)) := by
  rw [← attemptError_eq]
  cases outcome with
  | status code =>
      have hcode : ¬ isSuccess code = true := fun hsuccess =>
        h code ⟨rfl, isSuccess_iff.mp hsuccess⟩
      rw [conclude, if_neg hcode]
  | transport message => rfl
  | building message => rfl

/-! ## The first attempt that settles a delivery -/

/-- The attempt is the first that is not worth another one. -/
structure SettlesAt (peer : Nat → AttemptResult) (k : Nat) : Prop where
  pos : 1 ≤ k
  settled : ¬ (peer k).WorthAnother
  earlier : ∀ i, 1 ≤ i → i < k → (peer i).WorthAnother

theorem SettlesAt.unique {k l : Nat}
    (hk : SettlesAt peer k) (hl : SettlesAt peer l) : k = l := by
  rcases Nat.lt_trichotomy k l with hlt | heq | hgt
  · exact absurd (hl.earlier k hk.pos hlt) hk.settled
  · exact heq
  · exact absurd (hk.earlier l hl.pos hgt) hl.settled

theorem worthAnother_of_unsettled {n : Nat}
    (h : ¬ ∃ k, SettlesAt peer k ∧ k ≤ n) :
    ∀ i, 1 ≤ i → i ≤ n → (peer i).WorthAnother := by
  induction n with
  | zero =>
      intro i hpos hle
      omega
  | succ n ih =>
      have hearlier := ih fun ⟨k, hsettles, hle⟩ =>
        h ⟨k, hsettles, Nat.le_succ_of_le hle⟩
      intro i hpos hle
      by_cases hlast : i = n + 1
      · subst i
        by_contra hsettled
        exact h ⟨n + 1, ⟨hpos, hsettled, fun i hpos hlt =>
          hearlier i hpos (Nat.le_of_lt_succ hlt)⟩, Nat.le_refl _⟩
      · exact hearlier i hpos (by omega)

/-! ## Steps of a delivery -/

/-- An attempt and so many more, each after the wait that follows the one before
it. -/
def stepsFrom (peer : Nat → AttemptResult) (wait : Nat → Nat)
    (first more : Nat) : List DeliveryStep :=
  .attempt (peer first) ::
    (List.range' first more).flatMap fun i =>
      [.wait (wait i), .attempt (peer (i + 1))]

theorem stepsFrom_zero (wait : Nat → Nat) (first : Nat) :
    stepsFrom peer wait first 0 = [.attempt (peer first)] := rfl

theorem stepsFrom_succ (wait : Nat → Nat) (first more : Nat) :
    stepsFrom peer wait first (more + 1) =
      .attempt (peer first) :: .wait (wait first) ::
        stepsFrom peer wait (first + 1) more := by
  simp [stepsFrom, List.range'_succ]

theorem countP_stepsFrom (wait : Nat → Nat) (first more : Nat) :
    (stepsFrom peer wait first more).countP DeliveryStep.isAttempt =
      more + 1 := by
  induction more generalizing first with
  | zero => rfl
  | succ more ih =>
      rw [stepsFrom_succ, List.countP_cons, List.countP_cons, ih]
      rfl

/-- The milliseconds between an attempt and the next. -/
def backoff (config : WebhookConfig) (attempt : Nat) : Nat :=
  config.retryBackoffMs * min (2 ^ (attempt - 1)) (2 ^ 32 - 1)

/-- Each attempt but the last is worth another one, and the waits between them
can be represented. -/
structure GoesOn (peer : Nat → AttemptResult) (config : WebhookConfig)
    (first more : Nat) : Prop where
  worthAnother : ∀ i, first ≤ i → i < first + more → (peer i).WorthAnother
  fits : ∀ i, first ≤ i → i < first + more →
    backoff config i < 2 ^ 64 * 1000
  counted : first + more < 2 ^ 32

theorem GoesOn.tail {first more : Nat}
    (h : GoesOn peer config first (more + 1)) :
    GoesOn peer config (first + 1) more where
  worthAnother i hle hlt := h.worthAnother i (by omega) (by omega)
  fits i hle hlt := h.fits i (by omega) (by omega)
  counted := by
    have := h.counted
    omega

/-- A delivery that goes on makes its attempts up to the last one, which decides
if it is not worth another or there is no other. -/
theorem attemptFrom_of_goesOn
    {left first more : Nat} (url : String)
    (hon : GoesOn peer config first more)
    (hmore : more ≤ left)
    (hlast : more = left ∨ ¬ (peer (first + more)).WorthAnother) :
    attemptFrom peer url config.retryBackoffMs left first =
      .value ⟨conclude url (first + more) (peer (first + more)),
        stepsFrom peer (backoff config) first more⟩ := by
  -- Every attempt that goes on leaves one retry less, so both counters move.
  induction more generalizing left first with
  | zero =>
      cases left with
      | zero => rfl
      | succ left =>
          have hsettled : (peer first).isRetryable = false := by
            rw [← Bool.not_eq_true, ← AttemptResult.worthAnother_iff]
            simpa using hlast
          simp [attemptFrom, hsettled, stepsFrom_zero]
  | succ more ih =>
      cases left with
      | zero => omega
      | succ left =>
          have hretryable : (peer first).isRetryable = true :=
            AttemptResult.worthAnother_iff.mp
              (hon.worthAnother first (Nat.le_refl _) (by omega))
          have hwait : waitAfter config.retryBackoffMs first < waitBound :=
            hon.fits first (Nat.le_refl _) (by omega)
          have hnext : first + 1 < attemptBound := by
            have hcounted := hon.counted
            change first + 1 < 2 ^ 32
            omega
          have hend : first + (more + 1) = first + 1 + more := by omega
          rw [hend] at hlast ⊢
          have hrest := ih hon.tail (Nat.le_of_succ_le_succ hmore) (by
            rcases hlast with heq | hsettled
            · exact .inl (by omega)
            · exact .inr hsettled)
          rw [attemptFrom, if_pos hretryable, if_pos ⟨hwait, hnext⟩, hrest,
            stepsFrom_succ]
          rfl

/-! ## Deliveries -/

structure DeliveryRun.Makes (run : DeliveryRun) (peer : Nat → AttemptResult)
    (config : WebhookConfig) (k : Nat) : Prop where
  attempts : run.attempts = k
  steps : run.steps = stepsFrom peer (backoff config) 1 (k - 1)

theorem deliver_of_goesOn {more : Nat} (hmethod : NamesMethod request.method)
    (hon : GoesOn peer config 1 more) (hmore : more ≤ config.maxRetries)
    (hlast : more = config.maxRetries ∨ ¬ (peer (more + 1)).WorthAnother) :
    ∃ run, deliver config peer request = .value run ∧
      run.result = conclude request.url (more + 1) (peer (more + 1)) ∧
      run.Makes peer config (more + 1) := by
  have hend : 1 + more = more + 1 := Nat.add_comm 1 more
  have hattempts := attemptFrom_of_goesOn request.url hon hmore
    (hend ▸ hlast)
  rw [hend] at hattempts
  refine ⟨⟨_, stepsFrom peer (backoff config) 1 more⟩, ?_, rfl,
    countP_stepsFrom _ 1 more, rfl⟩
  simp only [deliver, readMethod_of_namesMethod hmethod]
  exact hattempts

/-- A delivery with a method makes its attempts up to the first that settles it,
whose outcome decides, or all that its retries allow, and then fails as the last
of them did.  Between two attempts it waits; the wait doubles up to a bound.
Without a method nothing is attempted. -/
theorem deliver_up_to_settled
    (peer : Nat → AttemptResult) (config : WebhookConfig)
    (request : WebhookRequest) (hretries : config.maxRetries < 2 ^ 32 - 1)
    (hfits : ∀ i, 1 ≤ i → i ≤ config.maxRetries →
      backoff config i < 2 ^ 64 * 1000) :
    (¬ NamesMethod request.method →
      deliver config peer request =
        .value ⟨.error (.configuration
          ("unsupported webhook method: " ++
            Text.asciiUpper (Text.trim request.method))), []⟩) ∧
    (NamesMethod request.method →
      ∃ run, deliver config peer request = .value run ∧
        (∀ k, SettlesAt peer k → k ≤ config.maxRetries + 1 →
          run.Makes peer config k ∧
          (∀ delivery, run.result = .ok delivery ↔
            (peer k).Succeeds delivery.statusCode ∧ delivery.attempts = k) ∧
          ((∀ code, ¬ (peer k).Succeeds code) →
            run.result = .error
              (.collaborator "webhook" ((peer k).complaint request.url)))) ∧
        ((¬ ∃ k, SettlesAt peer k ∧ k ≤ config.maxRetries + 1) →
          run.Makes peer config (config.maxRetries + 1) ∧
          run.result = .error (.collaborator "webhook"
            ((peer (config.maxRetries + 1)).complaint request.url)))) := by
  have hgoesOn {more : Nat} (hmore : more ≤ config.maxRetries)
      (hworth : ∀ i, 1 ≤ i → i ≤ more → (peer i).WorthAnother) :
      GoesOn peer config 1 more :=
    { worthAnother := fun i hpos hlt => hworth i hpos (by omega)
      fits := fun i hpos hlt => hfits i hpos (by omega)
      counted := by omega }
  constructor
  · intro hmethod
    simp only [deliver, readMethod_of_not_namesMethod hmethod]
  · intro hmethod
    by_cases hsettled : ∃ k, SettlesAt peer k ∧ k ≤ config.maxRetries + 1
    · obtain ⟨k, hk, hle⟩ := hsettled
      obtain ⟨more, rfl⟩ : ∃ more, k = more + 1 :=
        ⟨k - 1, (Nat.sub_add_cancel hk.pos).symm⟩
      have hmore : more ≤ config.maxRetries := by omega
      obtain ⟨run, hrun, hresult, hmakes⟩ := deliver_of_goesOn hmethod
        (hgoesOn hmore fun i hpos hi => hk.earlier i hpos (by omega)) hmore
        (.inr hk.settled)
      refine ⟨run, hrun, fun l hl _ => ?_, fun hnone => ?_⟩
      · obtain rfl := hl.unique hk
        rw [hresult]
        exact ⟨hmakes, fun delivery => conclude_eq_ok_iff,
          conclude_of_not_succeeds⟩
      · exact absurd ⟨more + 1, hk, hle⟩ hnone
    · have hworth := worthAnother_of_unsettled hsettled
      obtain ⟨run, hrun, hresult, hmakes⟩ := deliver_of_goesOn hmethod
        (hgoesOn (Nat.le_refl _) fun i hpos hi => hworth i hpos (by omega))
        (Nat.le_refl _) (.inl rfl)
      refine ⟨run, hrun, fun k hk hle => ?_, fun _ => ⟨hmakes, ?_⟩⟩
      · exact absurd ⟨k, hk, hle⟩ hsettled
      · have hlast := hworth (config.maxRetries + 1) (by omega) (Nat.le_refl _)
        rw [hresult, conclude_of_not_succeeds hlast.not_succeeds]

/-- A server that fails, does not answer, and then takes what it is sent. -/
def flaky : Nat → AttemptResult
  | 1 => .status 503
  | 2 => .transport "connection closed before message completed"
  | _ => .status 204

def order : WebhookRequest :=
  ⟨"https://hooks.example.com/orders", " post ", .object [], []⟩

/-- With three retries allowed the third attempt delivers. -/
theorem deliver_up_to_settled_flaky :
    WebhookConfig.standard.maxRetries < 2 ^ 32 - 1 ∧
      (∀ i, 1 ≤ i → i ≤ WebhookConfig.standard.maxRetries →
        backoff .standard i < 2 ^ 64 * 1000) ∧
      NamesMethod order.method ∧ SettlesAt flaky 3 ∧
      ∃ run, deliver .standard flaky order = .value run ∧
        run.result = .ok ⟨204, 3⟩ ∧
        run.steps =
          [.attempt (flaky 1), .wait 500, .attempt (flaky 2), .wait 1000,
            .attempt (flaky 3)] := by
  have hretries : WebhookConfig.standard.maxRetries < 2 ^ 32 - 1 := by decide
  have hfits : ∀ i, 1 ≤ i → i ≤ WebhookConfig.standard.maxRetries →
      backoff .standard i < 2 ^ 64 * 1000 := fun i _ _ => by
    have hfactor : min (2 ^ (i - 1)) (2 ^ 32 - 1) ≤ 2 ^ 32 - 1 :=
      Nat.min_le_right _ _
    simp only [backoff, WebhookConfig.standard]
    omega
  have hmethod : NamesMethod order.method := ⟨"POST", by decide, by decide⟩
  have hsettles : SettlesAt flaky 3 :=
    { pos := by decide
      settled := by
        rw [AttemptResult.worthAnother_iff]
        decide
      earlier := fun i hpos hlt => by
        rw [AttemptResult.worthAnother_iff]
        interval_cases i <;> decide }
  obtain ⟨run, hrun, hdelivers, -⟩ :=
    (deliver_up_to_settled flaky .standard order hretries hfits).2 hmethod
  obtain ⟨hmakes, hresult, -⟩ := hdelivers 3 hsettles (by decide)
  exact ⟨hretries, hfits, hmethod, hsettles, run, hrun,
    (hresult ⟨204, 3⟩).mpr ⟨⟨rfl, by decide, by decide⟩, rfl⟩, hmakes.steps⟩

end Web

end RecordRules
