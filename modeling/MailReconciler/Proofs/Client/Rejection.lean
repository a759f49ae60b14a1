/-
Rejections by the breaker and the retries around it. Whether an error is worth another try is read off its text, and
the text of a rejection quotes the name of the breaker: so a preset policy retries a rejection exactly if the name in
lower case holds a status code or a phrase of the policy. Under any other name a rejection ends the call at once, and
so does an operation that the scope cuts short.
-/
import MailReconciler.Config.Check
import MailReconciler.Proofs.Client.Attempts
import MailReconciler.Proofs.Text.Quotation

namespace MailReconciler

/-! ## Marks of passing errors -/

namespace Policy

/-- The texts that make an error worth another try. -/
def marks (p : Policy) : List String := passingStatusTexts ++ p.phrases

/-- Whether a text in lower case holds such a mark. -/
def marksText (p : Policy) (text : String) : Bool := p.marks.any (Text.mentions (Text.lowercase text))

theorem retriesText_eq (p : Policy) (message : String) {signs : NetworkSigns}
    (h : (signs.timedOut == some true) = false) : p.retriesText message signs = p.marksText message := by
  unfold retriesText marksText marks
  rw [h, List.any_append, Bool.false_or]

/-- Marks are looked for among the characters of a text. Given these, a literal need not be decoded. -/
theorem marksText_of_toList (p : Policy) {text : String} {chars : List Char} (h : text.toList = chars) :
    p.marksText text = p.marks.any fun m => Text.holdsPhrase m.toList (Text.lowerChars chars) := by
  unfold marksText Text.mentions
  rw [Text.toList_lowercase, h]

/-- The phrases of the preset for the API, in order. -/
theorem phrases_api : api.phrases =
    ["bad gateway", "broken pipe", "connection refused", "connection reset", "gateway timeout", "i/o timeout",
      "rate limit", "server closed", "service unavailable", "temporarily unavailable", "timeout", "too many requests",
      "unexpected eof"] := by
  decide +kernel

/-- What a breaker's failure says behind the name of the breaker. -/
def endings : List String :=
  ["' is open", "': " ++ EndReason.cancelled.message, "': " ++ EndReason.deadlinePassed.message]

/-- No mark holds a quote or stands in what a breaker's failure says around the name of the breaker. -/
def KeepsOff (p : Policy) : Prop :=
  ∀ m ∈ p.marks, '\'' ∉ m.toList ∧ Text.mentions "circuit breaker " m = false ∧
    ∀ e ∈ endings, Text.mentions e m = false

instance (p : Policy) : Decidable p.KeepsOff := inferInstanceAs (Decidable (∀ m ∈ p.marks, _))

theorem marks_conservative : conservative.marks ⊆ api.marks := by
  unfold marks
  rw [phrases_api]
  decide +kernel

theorem keepsOff_api : api.KeepsOff := by
  unfold KeepsOff marks
  rw [phrases_api]
  decide +kernel

theorem keepsOff_conservative : conservative.KeepsOff := fun m hm => keepsOff_api m (marks_conservative hm)

theorem endings_plain : ∀ e ∈ endings, 'Σ' ∉ e.toList ∧ Text.meetsLetter e.toList = false ∧
    e.toList.flatMap Text.lowerAlone = e.toList ∧ e.toList = '\'' :: e.toList.tail := by
  decide +kernel

theorem toList_lowercase_quoted {ending : String} (he : ending ∈ endings) (name : String) :
    (Text.lowercase ("circuit breaker '" ++ name ++ ending)).toList =
      "circuit breaker ".toList ++ '\'' :: ((Text.lowercase name).toList ++ '\'' :: ending.toList.tail) := by
  obtain ⟨hsigma, hletter, hlower, hquote⟩ := endings_plain ending he
  have hbefore : 'Σ' ∉ "circuit breaker '".toList ∧ Text.meetsLetter "circuit breaker '".toList.reverse = false ∧
      "circuit breaker '".toList.flatMap Text.lowerAlone = "circuit breaker ".toList ++ ['\''] := by decide +kernel
  rw [Text.toList_lowercase, Text.toList_lowercase, String.toList_append, String.toList_append, List.append_assoc,
    Text.lowerChars_quoted hbefore.1 hsigma hbefore.2.1 hletter, hbefore.2.2, hlower, ← hquote, List.append_assoc]
  rfl

/-- A breaker's failure holds a mark exactly if the name of the breaker does. -/
theorem marksText_quoted {p : Policy} (h : p.KeepsOff) {ending : String} (he : ending ∈ endings) (name : String) :
    p.marksText ("circuit breaker '" ++ name ++ ending) = p.marksText name := by
  obtain ⟨-, -, -, hquote⟩ := endings_plain ending he
  unfold marksText
  rw [Bool.eq_iff_iff, List.any_eq_true, List.any_eq_true]
  refine exists_congr fun m => and_congr_right fun hm => ?_
  obtain ⟨hm, hbefore, hafter⟩ := h m hm
  have hafter := hafter ending he
  unfold Text.mentions at hbefore hafter ⊢
  rw [hquote, ← List.nil_append ('\'' :: _), Text.holdsPhrase_append_cons hm, Bool.or_eq_false_iff] at hafter
  rw [toList_lowercase_quoted he, Text.holdsPhrase_append_cons hm, Text.holdsPhrase_append_cons hm, hbefore, hafter.2,
    Bool.false_or, Bool.or_false]

end Policy

theorem retries_rejected {ε : Type} [Report ε] {p : Policy} (h : p.KeepsOff) (name : String) :
    p.retries (.rejected name : BreakerFailure ε) = p.marksText name :=
  (p.retriesText_eq _ rfl).trans (Policy.marksText_quoted h List.mem_cons_self name)

theorem retries_interrupted {ε : Type} [Report ε] {p : Policy} (h : p.KeepsOff) (name : String) (reason : EndReason) :
    p.retries (.interrupted name reason : BreakerFailure ε) = p.marksText name := by
  have he : "': " ++ reason.message ∈ Policy.endings := by cases reason <;> simp [Policy.endings]
  have hmessage : (BreakerFailure.interrupted name reason : BreakerFailure ε).message =
      "circuit breaker '" ++ name ++ ("': " ++ reason.message) := String.append_assoc
  exact (p.retriesText_eq _ rfl).trans ((congrArg p.marksText hmessage).trans (Policy.marksText_quoted h he name))

/-! ## Calls -/

section Calls

variable {ρ α : Type} {policy : Policy} {scope : Scope} {operation : String}
  {op : Nat → Work ρ (Except ApiFailure α)} {spare attempt : Nat} {now t : Instant} {w w' : World ρ}

/-- An attempt that the breaker rejects, or whose operation the scope cuts short, ends its call at once if the name of
the breaker holds no mark of the preset policy, or if no attempt is left: there is no wait, and nothing happens to the
breaker or behind it. Otherwise it is retried like any that fails with a passing error. -/
theorem rejected_attempt_ends_call (hp : policy = .conservative ∨ policy = .api) {name : String}
    {e : BreakerFailure ApiFailure} (he : e = .rejected name ∨ ∃ reason, e = .interrupted name reason)
    (h : (throughBreaker scope (op attempt)).run now w = some (.error e, t, w')) :
    policy.retries e = policy.marksText name ∧
    (policy.marksText name = false ∨ spare = 0 → ∃ w'',
      (callFrom policy scope operation op spare attempt).run now w =
        some (⟨attempt, .error (.ofBreaker operation e)⟩, t, w'') ∧ w''.state = w'.state ∧ w''.random = w'.random) ∧
    (policy.marksText name = true → 0 < spare →
      scope.reason? (t + (Retry.waitBehind policy attempt w').nanos) = none →
      (callFrom policy scope operation op spare attempt).run now w =
        (callFrom policy scope operation op (spare - 1) (attempt + 1)).run
          (t + (Retry.waitBehind policy attempt w').nanos) (Retry.waiting policy operation attempt w')) := by
  have hoff : policy.KeepsOff := by
    rcases hp with rfl | rfl
    · exact Policy.keepsOff_conservative
    · exact Policy.keepsOff_api
  have hretries : policy.retries e = policy.marksText name := by
    rcases he with rfl | ⟨reason, rfl⟩
    · exact retries_rejected hoff name
    · exact retries_interrupted hoff name reason
  have hnone : e.operation? = none := by rcases he with rfl | ⟨reason, rfl⟩ <;> rfl
  refine ⟨hretries, fun hm => run_callFrom_of_not_retried h hnone (hm.imp_left hretries.trans), fun hm hspare hs => ?_⟩
  obtain ⟨spare, rfl⟩ := Nat.exists_eq_add_of_lt hspare
  rw [Nat.zero_add]
  exact run_callFrom_of_retried h (hretries.trans hm) hs

end Calls

/-- A world whose breaker is open and has just seen a failure. -/
def shutWorld (name : String) : World Unit :=
  ⟨[], .cycle [], ⟨name, {}, .opened, .opened, 5, 0, some 0⟩, .ofRun, ()⟩

theorem run_throughBreaker_shutWorld (name : String) (op : Work Unit (Except ApiFailure Unit)) :
    (throughBreaker .endless op).run 0 (shutWorld name) =
      some (.error (.rejected name), 0, (shutWorld name).rejected) :=
  run_throughBreaker_of_rejected .endless op rfl rfl

/-- An open breaker with the usual name ends a call of the API at its first attempt. -/
theorem mailgun_rejection_ends_call : ∃ w'', (guarded .api .endless "get_route" fun _ =>
    (.never : Work Unit (Except ApiFailure Unit))).run 0 (shutWorld "mailgun") =
      some (⟨1, .error (.rejected "get_route" "mailgun")⟩, 0, w'') ∧ w''.state = (shutWorld "mailgun").state := by
  have hmark : Policy.api.marksText "mailgun" = false := by
    refine (Policy.marksText_of_toList _ String.toList_ofList).trans ?_
    rw [Policy.marks, Policy.phrases_api]
    decide
  obtain ⟨-, hends, -⟩ := @rejected_attempt_ends_call Unit Unit .api .endless "get_route" (fun _ => .never)
    (Retry.spare .api) 1 0 0 (shutWorld "mailgun") _ (.inr rfl) "mailgun" _ (.inl rfl)
    (run_throughBreaker_shutWorld "mailgun" .never)
  obtain ⟨w'', hrun, hstate, -⟩ := hends (.inl hmark)
  exact ⟨w'', hrun, hstate⟩

/-- An open breaker named like a status is accepted, and its rejections are worth another try to both presets: a call
that it rejects does not end with its first attempt. -/
theorem numbered_breaker_retried : (⟨"503", {}⟩ : BreakerSection).checkedSettings = .ok {} ∧
    (∀ policy ∈ [Policy.conservative, Policy.api],
      policy.retries (.rejected "503" : BreakerFailure ApiFailure) = true ∧
      policy.retries (.interrupted "503" .cancelled : BreakerFailure ApiFailure) = true) ∧
    ∀ run t w'', (guarded .api .endless "get_route" fun _ => (.never : Work Unit (Except ApiFailure Unit))).run 0
      (shutWorld "503") = some (run, t, w'') → 2 ≤ run.attempts := by
  have hretried : ∀ policy ∈ [Policy.conservative, Policy.api],
      policy.retries (.rejected "503" : BreakerFailure ApiFailure) = true ∧
      policy.retries (.interrupted "503" .cancelled : BreakerFailure ApiFailure) = true := by decide
  refine ⟨rfl, hretried, fun run t w'' h => ?_⟩
  have hnext := @run_callFrom_of_retried Unit Unit .api .endless "get_route" (fun _ => .never) 3 1 0 0 (shutWorld "503")
    _ _ (run_throughBreaker_shutWorld "503" .never) (hretried .api (by simp)).1 rfl
  exact le_attempts_of_run_callFrom (hnext.symm.trans h)

end MailReconciler
