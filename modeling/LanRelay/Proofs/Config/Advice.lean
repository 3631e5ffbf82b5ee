/-
The advice that is given, against the advice that is due.

Two announce intervals are compared with the time to live as 64-bit words. That
is the comparison of the numbers as long as the interval is below 2 ^ 63. From
there on the two intervals are out of range, and no advice at all is given.

Main statement: `Blueprint.advice_is_exact_below_half_range`.
-/
import LanRelay.Cli.Execution
import LanRelay.Proofs.Config.RoundTrip

namespace LanRelay

/-! Products of words. -/

theorem wordProduct?_eq_some_iff {x y product : UInt64} :
    wordProduct? x y = some product ↔
      product.toNat = x.toNat * y.toNat := by
  have hrange := product.toNat_lt
  have hwraps : (x * y).toNat = x.toNat * y.toNat % 2 ^ 64 :=
    UInt64.toNat_mul x y
  rw [wordProduct?, Option.ite_none_right_eq_some, Option.some_inj,
    ← UInt64.toNat_inj, hwraps, show UInt64.size = 2 ^ 64 from rfl]
  constructor
  · rintro ⟨hfits, hsame⟩
    rw [← hsame, Nat.mod_eq_of_lt hfits]
  · intro hsame
    rw [← hsame]
    exact ⟨hrange, Nat.mod_eq_of_lt hrange⟩

theorem wordProduct?_eq_none_iff {x y : UInt64} :
    wordProduct? x y = none ↔ 2 ^ 64 ≤ x.toNat * y.toNat := by
  rw [wordProduct?, show UInt64.size = 2 ^ 64 from rfl, ← Nat.not_lt]
  split <;> simp_all

namespace Advice

/-- When a piece of advice is due. The two durations are compared as
numbers. -/
def IsDue (blueprint : Blueprint) : Advice → Prop
  | anyInterface => blueprint.bus.interface = .unspecified
  | trustsAnnouncedHosts => blueprint.bus.deliveryTarget = .selfReported
  | shortTtl =>
      blueprint.bus.peerTtlMs.toNat <
        2 * blueprint.bus.announceIntervalMs.toNat
  | keepsSlowSessions => blueprint.sinks.maxConsecutiveDrops = 0

instance (blueprint : Blueprint) : DecidablePred (IsDue blueprint)
  | anyInterface => inferInstanceAs (Decidable (_ = _))
  | trustsAnnouncedHosts => inferInstanceAs (Decidable (_ = _))
  | shortTtl => inferInstanceAs (Decidable (_ < _))
  | keepsSlowSessions => inferInstanceAs (Decidable (_ = _))

/-- All there is to advise on, in the order in which it is listed. -/
def all : List Advice :=
  [anyInterface, trustsAnnouncedHosts, shortTtl, keepsSlowSessions]

theorem mem_all (advice : Advice) : advice ∈ all := by
  cases advice <;> decide

end Advice

namespace Blueprint

/-- The advice that is due, in its order. -/
def dueAdvice (blueprint : Blueprint) : List Advice :=
  Advice.all.filter (Advice.IsDue blueprint ·)

variable {blueprint : Blueprint}

theorem mem_dueAdvice {advice : Advice} :
    advice ∈ blueprint.dueAdvice ↔ advice.IsDue blueprint := by
  simp [dueAdvice, Advice.mem_all]

/-- The table of the advice, once two intervals are a word. -/
theorem adviceTable?_eq_some {twoIntervals : UInt64}
    (h : wordProduct? blueprint.bus.announceIntervalMs 2 =
      some twoIntervals) :
    blueprint.adviceTable? = some (Advice.all.map fun advice =>
      (advice, decide (advice.IsDue blueprint))) := by
  have httl : decide (blueprint.bus.peerTtlMs < twoIntervals) =
      decide (Advice.shortTtl.IsDue blueprint) := by
    refine decide_eq_decide.mpr ?_
    rw [UInt64.lt_iff_toNat_lt, wordProduct?_eq_some_iff.mp h, Nat.mul_comm]
    rfl
  simp only [adviceTable?, h, bind, Option.bind_some, httl]
  rfl

theorem advice?_eq_some {twoIntervals : UInt64}
    (h : wordProduct? blueprint.bus.announceIntervalMs 2 =
      some twoIntervals) :
    blueprint.advice? = some blueprint.dueAdvice := by
  rw [advice?, adviceTable?_eq_some h, Option.map_some, List.filter_map,
    List.map_map]
  exact congrArg some (List.map_id _)

theorem advice?_eq_none
    (h : wordProduct? blueprint.bus.announceIntervalMs 2 = none) :
    blueprint.advice? = none := by
  simp only [advice?, adviceTable?, h, bind, Option.bind_none, Option.map_none]

/-- Below half the range all that is due is given. -/
theorem advice?_of_lt
    (h : blueprint.bus.announceIntervalMs.toNat < 2 ^ 63) :
    blueprint.advice? = some blueprint.dueAdvice := by
  cases hproduct : wordProduct? blueprint.bus.announceIntervalMs 2 with
  | some twoIntervals => exact advice?_eq_some hproduct
  | none =>
      have hlarge := wordProduct?_eq_none_iff.mp hproduct
      rw [show (2 : UInt64).toNat = 2 from rfl] at hlarge
      omega

/-- From half the range on nothing is given. -/
theorem advice?_of_le
    (h : 2 ^ 63 ≤ blueprint.bus.announceIntervalMs.toNat) :
    blueprint.advice? = none := by
  refine advice?_eq_none (wordProduct?_eq_none_iff.mpr ?_)
  rw [show (2 : UInt64).toNat = 2 from rfl]
  omega

/-- No time to live is as long as two such intervals. -/
theorem shortTtl_isDue_of_le
    (h : 2 ^ 63 ≤ blueprint.bus.announceIntervalMs.toNat) :
    Advice.shortTtl.IsDue blueprint := by
  have hrange := blueprint.bus.peerTtlMs.toNat_lt
  show _ < 2 * _
  omega

/-- What is printed on a configuration that is loaded, if there is advice on
it. -/
theorem execute_validate {files : Cli.Files} {path : String}
    {entry : FileEntry} (hfile : files path = some entry)
    (hload : loadFile path (some entry) = .ok blueprint) (asJson : Bool) :
    (Cli.Task.validate path asJson).execute files =
      match blueprint.advice? with
      | some advice =>
          .done (Cli.Validation.render { path, result := .ok (blueprint, advice) }
            asJson)
      | none => .aborted := by
  simp only [Cli.Task.execute, Cli.validation?, hfile, hload]
  cases blueprint.advice? <;> rfl

/-- The advice given is the advice due, in its order, if and only if the
announce interval is below 2 ^ 63; in particular, the advice on a short time to
live is then given just if that is less than two intervals as a number. From
there on it always is, and no advice is given: whoever validates a file that
comes to such a configuration gets no report, and gets one on all that is due
otherwise. -/
theorem advice_is_exact_below_half_range (blueprint : Blueprint) :
    (blueprint.advice? = some blueprint.dueAdvice ↔
      blueprint.bus.announceIntervalMs.toNat < 2 ^ 63) ∧
    (∀ given, blueprint.advice? = some given →
      (.shortTtl ∈ given ↔ blueprint.bus.peerTtlMs.toNat <
        2 * blueprint.bus.announceIntervalMs.toNat)) ∧
    (blueprint.advice? = none ↔
      2 ^ 63 ≤ blueprint.bus.announceIntervalMs.toNat) ∧
    (2 ^ 63 ≤ blueprint.bus.announceIntervalMs.toNat →
      Advice.shortTtl.IsDue blueprint) ∧
    ∀ (files : Cli.Files) (path : String) (entry : FileEntry),
      files path = some entry →
      loadFile path (some entry) = .ok blueprint → ∀ asJson,
        (Cli.Task.validate path asJson).execute files =
          if blueprint.bus.announceIntervalMs.toNat < 2 ^ 63 then
            .done (Cli.Validation.render
              { path, result := .ok (blueprint, blueprint.dueAdvice) } asJson)
          else .aborted := by
  rcases Nat.lt_or_ge blueprint.bus.announceIntervalMs.toNat (2 ^ 63) with
    hbelow | hbeyond
  · have hgiven := advice?_of_lt hbelow
    refine ⟨iff_of_true hgiven hbelow, ?_, ?_, ?_, ?_⟩
    · intro given hsome
      rw [← Option.some.inj (hgiven.symm.trans hsome)]
      exact mem_dueAdvice
    · rw [hgiven]
      exact iff_of_false nofun (Nat.not_le.mpr hbelow)
    · exact fun hle => absurd hbelow (Nat.not_lt.mpr hle)
    · intro files path entry hfile hload asJson
      rw [execute_validate hfile hload, hgiven, if_pos hbelow]
  · have hnone := advice?_of_le hbeyond
    have hnot := Nat.not_lt.mpr hbeyond
    refine ⟨?_, ?_, iff_of_true hnone hbeyond, shortTtl_isDue_of_le, ?_⟩
    · rw [hnone]
      exact iff_of_false nofun hnot
    · intro given hsome
      cases hnone.symm.trans hsome
    · intro files path entry hfile hload asJson
      rw [execute_validate hfile hload, hnone, if_neg hnot]

/-- The shortest interval whose double is no 64-bit word, and a time to live
that is one millisecond longer. -/
def slowSample : Blueprint where
  bus := {
    announceIntervalMs := 9223372036854775808
    peerTtlMs := 9223372036854775809 }

/-- The longest interval whose double is one, and the same time to live. -/
def lessSlowSample : Blueprint where
  bus := {
    announceIntervalMs := 9223372036854775807
    peerTtlMs := 9223372036854775809 }

/-- A text of the first. -/
def slowToml : String :=
  "[bus]\nannounce_interval_ms = 9223372036854775808\n" ++
    "peer_ttl_ms = 9223372036854775809\n"

/-- A file for each of them. -/
def slowFiles : Cli.Files
  | "slow.toml" => some (.file (.ofText slowToml))
  | "less.json" => some (.file (.ofText
      ("\x7b\"bus\": \x7b\"announce_interval_ms\": 9223372036854775807, " ++
        "\"peer_ttl_ms\": 9223372036854775809\x7d\x7d")))
  | _ => none

theorem advice_is_exact_below_half_range_of_samples :
    slowSample.advice? = none ∧
    (Cli.Task.validate "slow.toml" true).execute slowFiles = .aborted ∧
    lessSlowSample.advice? =
      some [.anyInterface, .shortTtl, .keepsSlowSessions] ∧
    (Cli.Task.validate "less.json" false).execute slowFiles =
      .done (Cli.Validation.render {
        path := "less.json"
        result := .ok
          (lessSlowSample, [.anyInterface, .shortTtl, .keepsSlowSessions]) }
        false) := by
  have hdue : lessSlowSample.dueAdvice =
      [.anyInterface, .shortTtl, .keepsSlowSessions] := by decide +kernel
  obtain ⟨-, -, hnone, -, haborted⟩ :=
    advice_is_exact_below_half_range slowSample
  obtain ⟨hexact, -, -, -, hdone⟩ :=
    advice_is_exact_below_half_range lessSlowSample
  rw [hdue] at hexact hdone
  exact ⟨hnone.mpr (by decide),
    haborted slowFiles "slow.toml" _ rfl (by decide +kernel) true,
    hexact.mpr (by decide),
    hdone slowFiles "less.json" _ rfl (by decide +kernel) false⟩

/-- A configuration that is accepted from both formats, with a time to live that
is less than two intervals; no advice is given on it. -/
theorem accepted_without_advice :
    load .toml slowToml = .ok slowSample ∧
    load .json ("\x7b\"bus\": \x7b\"announce_interval_ms\": " ++
      "9223372036854775808, \"peer_ttl_ms\": 9223372036854775809\x7d\x7d") =
        .ok slowSample ∧
    slowSample.validate = .ok () ∧
    slowSample.bus.peerTtlMs.toNat <
      2 * slowSample.bus.announceIntervalMs.toNat ∧
    slowSample.dueAdvice = [.anyInterface, .shortTtl, .keepsSlowSessions] ∧
    slowSample.advice? = none := by
  refine ⟨by decide +kernel, by decide +kernel, by decide +kernel, by decide,
    by decide +kernel, by decide +kernel⟩

end Blueprint

end LanRelay
