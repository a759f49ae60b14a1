/-
A configuration is read back from what it is written as. The secret is left out, and a duration loses what it has beyond
whole milliseconds and above sixty-four bits of them; nothing else changes. Members that are left out come back as what
they were left out for, since the section says as much of a member that is not there.
-/
import MailReconciler.Config.Loading
import MailReconciler.Json.Complaint
import MailReconciler.Proofs.Address.Socket
import MailReconciler.Proofs.Json.Doubles
import MailReconciler.Proofs.Resource.Wire

namespace MailReconciler

open Json (Decoder Record DecodeError Plain ReadBack)
open Faithful

/-! ## Durations -/

namespace Duration

variable {d : Duration} {n : Nat}

/-- What is left of a duration that is written. -/
def rounded (d : Duration) : Duration := .ofMillis d.millis

/-- A number of milliseconds of sixty-four bits. -/
def IsWhole (d : Duration) : Prop := ∃ n < UInt64.size, d = .ofMillis n

theorem nanos_ofMillis (hn : n < UInt64.size) : (ofMillis n).nanos = n * 1000000 := by
  refine Nat.min_eq_left ?_
  unfold maxNanos UInt64.size at *
  omega

theorem millis_ofMillis (hn : n < UInt64.size) : (ofMillis n).millis = n := by
  unfold millis
  rw [nanos_ofMillis hn, Nat.mul_div_cancel _ (by decide)]
  exact Nat.min_eq_left (Nat.le_sub_one_of_lt hn)

theorem millis_lt (d : Duration) : d.millis < UInt64.size :=
  Nat.lt_of_le_of_lt (Nat.min_le_right ..) (by decide)

theorem nanos_rounded (d : Duration) : d.rounded.nanos = min (d.nanos / 1000000) (UInt64.size - 1) * 1000000 :=
  nanos_ofMillis d.millis_lt

theorem IsWhole.rounded_eq (h : d.IsWhole) : d.rounded = d := by
  obtain ⟨n, hn, rfl⟩ := h
  rw [rounded, millis_ofMillis hn]

theorem decodeMillis_nat (hn : n < UInt64.size) : decodeMillis (.nat n) = .ok (.ofMillis n) := by
  unfold decodeMillis
  rw [Decoder.natural_nat hn]
  rfl

theorem decodeMillis_millisJson (d : Duration) : decodeMillis d.millisJson = .ok d.rounded :=
  decodeMillis_nat d.millis_lt

theorem plain_millisJson (d : Duration) : Plain d.millisJson :=
  .integer ⟨by omega, by have hlt := d.millis_lt; unfold UInt64.size at hlt; omega⟩

end Duration

/-! ## Members that are left out -/

namespace Json

variable {α : Type} {name : String} {l : List (String × Option Json)}

@[simp] theorem Record.get_nil (default : α) (decode : Decoder α) : Record.get [] name default decode = .ok default :=
  rfl

/-- The members that have a value. -/
def present (l : List (String × Option Json)) : Record := l.filterMap fun m => m.2.map (m.1, ·)

theorem present_cons (name : String) (o : Option Json) (l : List (String × Option Json)) :
    present ((name, o) :: l) = (o.map (name, ·)).toList ++ present l := by
  cases o <;> rfl

theorem optionalMember_eq (name : String) (write : α → Json) (o : Option α) :
    optionalMember name write o = ((o.map write).map (name, ·)).toList := by
  cases o <;> rfl

theorem present_sublist (l : List (String × Option Json)) : ((present l).map (·.1)).Sublist (l.map (·.1)) := by
  induction l with
  | nil => exact List.Sublist.refl _
  | cons m l ih =>
    obtain ⟨name, o⟩ := m
    cases o with
    | none => exact ih.cons name
    | some j => exact ih.cons_cons name

/-- A member without a value is as one that is not there. -/
theorem Record.get_present (hnodup : (l.map (·.1)).Nodup) (name : String) (default : α) (decode : Decoder α) :
    Record.get (present l) name default decode = (l.lookup name).join.elim (.ok default) decode := by
  induction l with
  | nil => rfl
  | cons m l ih =>
    obtain ⟨first, o⟩ := m
    obtain ⟨hfresh, hrest⟩ := List.nodup_cons.1 hnodup
    rw [List.lookup_cons]
    by_cases hname : name = first
    · rw [beq_iff_eq.2 hname]
      cases o with
      | none =>
        have hnone : l.lookup name = none := List.lookup_eq_none_iff.2 fun m hm => by
          rw [bne_iff_ne]
          intro heq
          exact hfresh (List.mem_map.2 ⟨m, hm, (hname.symm.trans heq).symm⟩)
        exact (ih hrest).trans (by rw [hnone]; rfl)
      | some j => exact (Record.get_cons ..).trans (if_pos hname)
    · rw [beq_eq_false_iff_ne.2 hname]
      cases o with
      | none => exact ih hrest
      | some j => exact ((Record.get_cons ..).trans (if_neg hname)).trans (ih hrest)

/-- A record some of whose members are left out is taken in as it is. -/
theorem Record.read_bind_of_sublist {names : List String} {members : List (String × Json)}
    {next : Record → Except DecodeError α} (hsub : (members.map (·.1)).Sublist names) (hnodup : names.Nodup) :
    (Record.read names (.object members) >>= next) = next members := by
  have hread : Record.read names (.object members) = .ok members :=
    pickFields_of_subset (fun _ hmember => hsub.subset (List.mem_map_of_mem hmember)) (hnodup.sublist hsub)
  rw [hread]
  rfl

theorem readBack_present (h : ∀ m ∈ l, ∀ j ∈ m.2, ReadBack j) : ReadBack (.object (present l)) := by
  refine readBack_object fun member hmember => ?_
  obtain ⟨m, hm, hpresent⟩ := List.mem_filterMap.1 hmember
  obtain ⟨j, hj, rfl⟩ := Option.map_eq_some_iff.1 hpresent
  exact h m hm j hj

theorem elim_option {write : α → Json} {decode : Decoder α} {f : α → α} {o : Option α}
    (hdecode : ∀ a ∈ o, Decoder.option decode (write a) = .ok (some (f a))) :
    (o.map write).elim (.ok none) (Decoder.option decode) = .ok (o.map f) := by
  cases o with
  | none => rfl
  | some a => exact hdecode a rfl

end Json

/-! ## Sections -/

instance : LawfulWord RetryProfile where
  ofWord?_word p := by cases p <;> decide

namespace ApiSection

theorem decode_toJson (s : ApiSection) : decode .json s.toJson = .ok { s with apiKey := "" } := by
  refine Eq.trans (Json.Record.read_bind_of_sublist (by simp) (by decide)) ?_
  simp [string.decode_write, string.decode_option, DocumentFormat.word, word.decode_write, pure, Except.pure]

theorem readBack_toJson (s : ApiSection) : ReadBack s.toJson :=
  (Plain.object (by simp [word.plain, string.plain, string.plain_option])).readBack

end ApiSection

namespace HttpSection

def rounded (s : HttpSection) : HttpSection :=
  { s with
    requestTimeout := s.requestTimeout.rounded
    idleTimeout := s.idleTimeout.rounded
    gatewayBackoff := s.gatewayBackoff.rounded }

theorem decode_toJson (s : HttpSection) : decode .json s.toJson = .ok s.rounded := by
  refine Eq.trans (Json.Record.read_bind (by rfl) (by decide)) ?_
  simp [uint64.decode_write, uint32.decode_write, Duration.decodeMillis_millisJson, rounded, pure, Except.pure]

theorem readBack_toJson (s : HttpSection) : ReadBack s.toJson :=
  (Plain.object (by simp [uint64.plain, uint32.plain, Duration.plain_millisJson])).readBack

end HttpSection

namespace BreakerSection

def rounded (s : BreakerSection) : BreakerSection :=
  { s with settings := { s.settings with resetTimeout := s.settings.resetTimeout.rounded } }

theorem decode_toJson (s : BreakerSection) : decode .json s.toJson = .ok s.rounded := by
  refine Eq.trans (Json.Record.read_bind (by rfl) (by decide)) ?_
  simp [string.decode_write, uint32.decode_write, Duration.decodeMillis_millisJson, rounded, pure, Except.pure]

theorem readBack_toJson (s : BreakerSection) : ReadBack s.toJson :=
  (Plain.object (by simp [string.plain, uint32.plain, Duration.plain_millisJson])).readBack

end BreakerSection

namespace RetrySection

def rounded (s : RetrySection) : RetrySection :=
  { s with initial := s.initial.map Duration.rounded, longest := s.longest.map Duration.rounded }

/-- The phrases, unless there are none. -/
def phrases? (s : RetrySection) : Option (List String) := if s.phrases.isEmpty then none else some s.phrases

def members (s : RetrySection) : List (String × Option Json) := [
  ("profile", some (Word.toJson s.profile)),
  ("max_attempts", s.maxAttempts.map fun n => .nat n.toNat),
  ("initial_backoff_ms", s.initial.map Duration.millisJson),
  ("max_backoff_ms", s.longest.map Duration.millisJson),
  ("jitter_fraction", s.jitter.map Json.ofFloat),
  ("extra_retryable_substrings", s.phrases?.map fun phrases => .array (phrases.map .string))]

theorem toJson_eq (s : RetrySection) : s.toJson = .object (Json.present s.members) := by
  have hphrases : (if s.phrases.isEmpty then []
      else [("extra_retryable_substrings", Json.array (s.phrases.map .string))]) =
      optionalMember "extra_retryable_substrings" (fun phrases => .array (phrases.map .string)) s.phrases? := by
    unfold phrases?
    split <;> rfl
  have hnil : Json.present [] = [] := rfl
  unfold toJson members
  rw [hphrases]
  simp only [Json.present_cons, Json.optionalMember_eq, List.append_assoc, hnil, List.append_nil]
  rfl

theorem decode_toJson {s : RetrySection} (h : ∀ x ∈ s.jitter, Json.Reproduced x) :
    decode .json s.toJson = .ok s.rounded := by
  have hnodup : (s.members.map (·.1)).Nodup := by simp [members]
  have hprofile := word.decode_write s.profile
  have hattempts : (s.maxAttempts.map fun n => Json.nat n.toNat).elim (.ok none) (Decoder.option Decoder.uint32) =
      .ok (s.maxAttempts.map id) :=
    Json.elim_option fun n _ => uint32.decode_option (some n)
  have hwait (o : Option Duration) :
      (o.map Duration.millisJson).elim (.ok none) (Decoder.option Duration.decodeMillis) =
        .ok (o.map Duration.rounded) :=
    Json.elim_option fun d _ => congrArg (Except.map some) d.decodeMillis_millisJson
  have hjitter : (s.jitter.map Json.ofFloat).elim (.ok none) (Decoder.option Decoder.double) = .ok (s.jitter.map id) :=
    Json.elim_option fun x hx => by rw [(h x hx).ofFloat_eq]; rfl
  have hphrases : (s.phrases?.map fun phrases => .array (phrases.map .string)).elim (.ok [])
      (Decoder.list Decoder.string) = .ok s.phrases := by
    unfold phrases?
    split
    · next hempty => rw [List.isEmpty_iff.1 hempty]; rfl
    · exact string.list.decode_write s.phrases
  rw [toJson_eq]
  refine Eq.trans (Json.Record.read_bind_of_sublist (Json.present_sublist s.members) hnodup) ?_
  simp only [Json.Record.get_present hnodup]
  simp [-Option.elim_map, members, List.lookup_cons, DocumentFormat.word, hprofile, hattempts, hwait, hjitter, hphrases,
    rounded, Functor.map, Except.map]

theorem readBack_toJson {s : RetrySection} (h : ∀ x ∈ s.jitter, Json.Reproduced x) : ReadBack s.toJson := by
  have hphrases : ∀ phrases ∈ s.phrases?, ReadBack (.array (phrases.map .string)) :=
    fun phrases _ => (string.list.plain phrases).readBack
  rw [toJson_eq]
  refine Json.readBack_present ?_
  simpa [members, (word.plain s.profile).readBack, (uint32.plain _).readBack, (Duration.plain_millisJson _).readBack]
    using ⟨fun x hx => (h x hx).readBack, hphrases⟩

end RetrySection

/-! ## Configurations -/

namespace Config

variable {c : Config}

/-- What a configuration is read back as. -/
def asWritten (c : Config) : Config :=
  { c with
    api := { c.api with apiKey := "" }
    http := c.http.rounded
    retry := c.retry.rounded
    breaker := c.breaker.rounded }

theorem decode_toJson (h : ∀ x ∈ c.retry.jitter, Json.Reproduced x) : decode .json c.toJson = .ok c.asWritten := by
  have hserver : ServerSection.decode .json (.object [("health_addr", .string c.server.address.render)]) =
      .ok c.server := by
    refine Eq.trans (Json.Record.read_bind (by rfl) (by decide)) ?_
    simp [SocketAddress.decode, string.decode_write, SocketAddress.parse?_render, pure, Except.pure]
  have hcontroller : ControllerSection.decode .json
      (.object [("max_concurrency", .nat c.controller.maxConcurrency.toNat)]) = .ok c.controller := by
    refine Eq.trans (Json.Record.read_bind (by rfl) (by decide)) ?_
    simp [uint64.decode_write, pure, Except.pure]
  refine Eq.trans (Json.Record.read_bind (by rfl) (by decide)) ?_
  simp [c.api.decode_toJson, c.http.decode_toJson, RetrySection.decode_toJson h, c.breaker.decode_toJson, hserver,
    hcontroller, asWritten, pure, Except.pure]

theorem readBack_toJson (h : ∀ x ∈ c.retry.jitter, Json.Reproduced x) : ReadBack c.toJson := by
  have hserver : ReadBack (.object [("health_addr", .string c.server.address.render)]) :=
    (Plain.object (by simp [string.plain])).readBack
  have hcontroller : ReadBack (.object [("max_concurrency", .nat c.controller.maxConcurrency.toNat)]) :=
    (Plain.object (by simp [uint64.plain])).readBack
  refine Json.readBack_object ?_
  simp [c.api.readBack_toJson, c.http.readBack_toJson, RetrySection.readBack_toJson h, c.breaker.readBack_toJson,
    hserver, hcontroller]

theorem ofText_render (complaints : Json.Complaints) (h : ∀ x ∈ c.retry.jitter, Json.Reproduced x) :
    ofText complaints .json c.toJson.render = .ok c.asWritten := by
  have hread : DocumentFormat.json.read? c.toJson.render = some c.toJson := (readBack_toJson h).parse?_render.1
  unfold ofText Json.readAs?
  simp only [hread, Option.bind_some, decode_toJson h]
  rfl

/-- A configuration that a document can say exactly. -/
structure Exact (c : Config) : Prop where
  requestTimeout : c.http.requestTimeout.IsWhole
  idleTimeout : c.http.idleTimeout.IsWhole
  gatewayBackoff : c.http.gatewayBackoff.IsWhole
  initial : ∀ d ∈ c.retry.initial, d.IsWhole
  longest : ∀ d ∈ c.retry.longest, d.IsWhole
  jitter : ∀ x ∈ c.retry.jitter, Json.Reproduced x
  resetTimeout : c.breaker.settings.resetTimeout.IsWhole

theorem Exact.asWritten_eq (h : c.Exact) : c.asWritten = { c with api := { c.api with apiKey := "" } } := by
  have hoption {o : Option Duration} (ho : ∀ d ∈ o, d.IsWhole) : o.map Duration.rounded = o := by
    cases o with
    | none => rfl
    | some d => exact congrArg some (ho d rfl).rounded_eq
  simp only [asWritten, HttpSection.rounded, RetrySection.rounded, BreakerSection.rounded, h.requestTimeout.rounded_eq,
    h.idleTimeout.rounded_eq, h.gatewayBackoff.rounded_eq, h.resetTimeout.rounded_eq, hoption h.initial,
    hoption h.longest]

/-- A configuration whose durations are whole milliseconds of sixty-four bits, and whose jitter is one that JSON gives
back, is read back from its text with nothing but the secret changed, whatever is set, left out or listed, and
wherever the server listens. What is read back of any duration is what it has in whole milliseconds, at most the most
that there are in sixty-four bits; and every number of those is written as it was read. -/
theorem written_reads_back (complaints : Json.Complaints) :
    (∀ c : Config, c.Exact →
      ofText complaints .json c.toJson.render = .ok { c with api := { c.api with apiKey := "" } }) ∧
    (∀ d : Duration, ∃ r, Duration.decodeMillis d.millisJson = .ok r ∧
      r.nanos = min (d.nanos / 1000000) (UInt64.size - 1) * 1000000) ∧
    ∀ n < UInt64.size, ∃ d, Duration.decodeMillis (.nat n) = .ok d ∧ d.millisJson = .nat n := by
  refine ⟨fun c h => ?_, fun d => ⟨d.rounded, d.decodeMillis_millisJson, d.nanos_rounded⟩, fun n hn => ?_⟩
  · rw [ofText_render complaints h.jitter, h.asWritten_eq]
  · refine ⟨.ofMillis n, Duration.decodeMillis_nat hn, ?_⟩
    rw [Duration.millisJson, Duration.millis_ofMillis hn]

/-- A configuration with a secret, a wait, a jitter and a phrase of its own, whose server listens on a mapped address.
-/
theorem tuned_reads_back :
    let c : Config := {
      api := { apiKey := "key-test", baseUrl := some "https://api.example.com" }
      retry := { profile := .conservative, initial := some (.ofMillis 250), jitter := some 0.5, phrases := ["Reset"] }
      server := { address := .v6 ⟨[0, 0, 0, 0, 0, 0xFFFF, 0x7F00, 1], rfl⟩ 0 9090 } }
    c.Exact ∧ ofText .placeless .json c.toJson.render = .ok { c with api := { c.api with apiKey := "" } } ∧
      (∃ r, Duration.decodeMillis (Duration.ofNanos 1999999).millisJson = .ok r ∧ r.nanos = 1000000) ∧
      ∃ d, Duration.decodeMillis (.nat 7) = .ok d ∧ d.millisJson = .nat 7 := by
  intro c
  have hexact : c.Exact := {
    requestTimeout := ⟨30000, by decide, by decide⟩
    idleTimeout := ⟨90000, by decide, by decide⟩
    gatewayBackoff := ⟨500, by decide, by decide⟩
    initial := fun d hd => by
      obtain rfl := Option.mem_some.1 hd
      exact ⟨250, by decide, rfl⟩
    longest := fun d hd => by cases hd
    jitter := fun x hx => by
      obtain rfl := Option.mem_some.1 hx
      rfl
    resetTimeout := ⟨60000, by decide, by decide⟩ }
  obtain ⟨hread, hrounded, hwritten⟩ := written_reads_back .placeless
  exact ⟨hexact, hread c hexact, hrounded (.ofNanos 1999999), hwritten 7 (by decide)⟩

end Config

end MailReconciler
