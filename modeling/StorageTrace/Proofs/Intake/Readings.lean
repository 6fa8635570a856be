import Mathlib.Algebra.BigOperators.Group.List.Basic
import Mathlib.Data.UInt
import StorageTrace.Tally

/-! # Readings of a tally

A reading names the probes that have events, once each, and starts the tally anew. However recording and
reading alternate, the readings and what is left in the tally account for the events of every probe. An
event word that wraps to zero would hide bytes from a reading, so those are promised for fewer events.
-/

namespace StorageTrace

namespace Tally

/-- What a list of readings says about a probe. -/
def readingsOf (probe : Probe) (readings : List (Probe × ProbeCount)) : List ProbeCount :=
  (readings.filter fun entry => entry.1 = probe).map Prod.snd

theorem readingsOf_append (probe : Probe) (earlier later : List (Probe × ProbeCount)) :
    readingsOf probe (earlier ++ later) = readingsOf probe earlier ++ readingsOf probe later := by
  rw [readingsOf, List.filter_append, List.map_append, ← readingsOf, ← readingsOf]

@[simp] theorem count_empty (probe : Probe) : ({} : Tally).count probe = {} := by
  rw [count, Table.find?_empty, Option.getD_none]

/-- A reading tells what the tally holds of a probe, unless that is no event. -/
theorem readingsOf_drain (tally : Tally) (probe : Probe) :
    readingsOf probe tally.drain.1 =
      if (tally.count probe).events = 0 then [] else [tally.count probe] := by
  have among : probe ∈ Probe.all := by
    cases probe <;> decide
  have distinct : Probe.all.Nodup := by decide
  rw [readingsOf, drain, filter_filterMap_key _ distinct, if_pos among]
  · by_cases silent : (tally.count probe).events = 0 <;> simp [silent]
  · intro other entry made
    dsimp only at made
    split at made
    · cases made
    · cases made
      rfl

/-- The readings of a probe, and what the tally has counted since, account for the events that the probe
has reported. -/
structure Settled (tally : Tally) (readings : List (Probe × ProbeCount)) (probe : Probe)
    (events : List Event) : Prop where
  count : ((readingsOf probe readings).map (·.events)).sum + (tally.count probe).events =
    UInt64.ofNat events.length
  exact_count : events.length < 2 ^ 64 →
    ((readingsOf probe readings).map (·.events.toNat)).sum + (tally.count probe).events.toNat =
      events.length
  bytes : events.length < 2 ^ 64 →
    ((readingsOf probe readings).map (·.bytes)).sum + (tally.count probe).bytes =
      (events.map (·.bytes)).sum
  silent : events.length < 2 ^ 64 → (tally.count probe).events = 0 → (tally.count probe).bytes = 0

namespace Settled

variable {readings : List (Probe × ProbeCount)} {tally : Tally} {probe : Probe} {events : List Event}

theorem start (probe : Probe) : Settled {} [] probe [] := by
  constructor <;> simp [readingsOf]

/-- An event of the probe joins the events to account for. -/
theorem record (settled : Settled tally readings probe events) (event : Event) :
    Settled (tally.record event) readings probe
      (events ++ if event.probe = probe then [event] else []) := by
  by_cases own : event.probe = probe
  · have counted : (tally.record event).count probe =
        { events := (tally.count probe).events + 1
          bytes := (tally.count probe).bytes + event.bytes } := by
      rw [count_record, if_pos own.symm]
    rw [if_pos own]
    have raised (fits : (events ++ [event]).length < 2 ^ 64) :
        ((tally.count probe).events + 1).toNat = (tally.count probe).events.toNat + 1 := by
      rw [List.length_append, List.length_singleton] at fits
      have before := settled.exact_count (by omega)
      rw [UInt64.toNat_add, UInt64.toNat_one]
      omega
    have fewer (fits : (events ++ [event]).length < 2 ^ 64) : events.length < 2 ^ 64 := by
      rw [List.length_append, List.length_singleton] at fits
      omega
    refine ⟨?_, fun fits => ?_, fun fits => ?_, fun fits stopped => ?_⟩
    · rw [counted, List.length_append, List.length_singleton, UInt64.ofNat_add, ← settled.count,
        UInt64.add_assoc]
      rfl
    · rw [counted, raised fits, List.length_append, List.length_singleton,
        ← settled.exact_count (fewer fits), Nat.add_assoc]
    · rw [counted, List.map_append, List.sum_append, List.map_singleton, List.sum_singleton,
        ← settled.bytes (fewer fits), UInt64.add_assoc]
    · have wrapped : (tally.count probe).events + 1 = 0 := by rwa [counted] at stopped
      have grown := raised fits
      rw [wrapped, UInt64.toNat_zero] at grown
      omega
  · have counted : (tally.record event).count probe = tally.count probe := by
      rw [count_record, if_neg (Ne.symm own)]
    rw [if_neg own, List.append_nil]
    refine ⟨?_, ?_, ?_, ?_⟩ <;> rw [counted]
    exacts [settled.count, settled.exact_count, settled.bytes, settled.silent]

/-- A reading moves what the tally holds to the readings. -/
theorem drain (settled : Settled tally readings probe events) :
    Settled tally.drain.2 (readings ++ tally.drain.1) probe events := by
  have emptied : tally.drain.2.count probe = {} := count_empty probe
  by_cases silent : (tally.count probe).events = 0
  · have same : readingsOf probe (readings ++ tally.drain.1) = readingsOf probe readings := by
      rw [readingsOf_append, readingsOf_drain, if_pos silent, List.append_nil]
    refine ⟨?_, fun fits => ?_, fun fits => ?_, fun _ _ => by rw [emptied]⟩ <;> rw [same, emptied]
    · rw [← settled.count, silent]
    · rw [← settled.exact_count fits, silent]
    · rw [← settled.bytes fits, settled.silent fits silent]
  · have more : readingsOf probe (readings ++ tally.drain.1) =
        readingsOf probe readings ++ [tally.count probe] := by
      rw [readingsOf_append, readingsOf_drain, if_neg silent]
    refine ⟨?_, fun fits => ?_, fun fits => ?_, fun _ _ => by rw [emptied]⟩ <;>
      rw [more, emptied, List.map_append, List.sum_append, List.map_singleton, List.sum_singleton]
    · rw [UInt64.add_zero, settled.count]
    · exact settled.exact_count fits
    · rw [UInt64.add_zero, settled.bytes fits]

end Settled

end Tally

end StorageTrace
