import Dripline.Proofs.Flow.Report

/-!
# The check gets stricter as time passes

Two checks of one flow, the second of them at a later clock:

* `Grows`: the later check reports whatever the earlier one did, in the same order, or both end with the same
  fault;
* `millisLeft_le`: the limit of relative delays gets smaller, rounded as it is;
* `unitProblems_grows`, `delayProblems_grows`: the two tests that read the clock. No other part of the check
  does (`nodeProblems_grows`, `nodesProblems_grows`, `problems_grows`);
* **`stricter_as_time_passes`**: reports grow, and what is accepted was accepted before.
-/

namespace Dripline

namespace Check

/-- The outcomes of an earlier and of a later check: nothing that was reported is taken back. -/
abbrev Grows : Except ArithFault (List Problem) → Except ArithFault (List Problem) → Prop :=
  Alike List.Sublist

variable {now later : Moment}

/-! ## 1. The tests that read the clock -/

/-- What does not read the clock stays as it is. -/
theorem Grows.same (ps : List Problem) : Grows (.ok ps) (.ok ps) := .results (.refl ps)

/-- A problem that is still there when it was there before. -/
theorem sublist_of_imp {early late : Bool} {p : Problem} (h : early = true → late = true) :
    (if early then [p] else []).Sublist (if late then [p] else []) := by
  cases early with
  | false => exact List.nil_sublist _
  | true => rw [h rfl]

/-- **The limit of relative delays gets smaller**: the exact quotients do, and rounding keeps their order. -/
theorem millisLeft_le (h : now.atMost later = .ok true) :
    Alike (fun early late => late.le early = true) (millisLeft now) (millisLeft later) :=
  (Moment.since_antitone h Moment.last).map fun _ _ hless => Double.ofQuotient_le (by decide) hless

theorem unitProblems_grows (h : now.atMost later = .ok true) (id : String) (amount : Option Double)
    (unit : Option String) : Grows (unitProblems id amount unit now) (unitProblems id amount unit later) := by
  unfold unitProblems
  split
  · exact .same _
  · split
    · exact .same _
    · split
      · refine (millisLeft_le h).bind fun early late hle => ?_
        exact .results (sublist_of_imp fun hlarge => Double.le_trans hle hlarge)
      · exact .same _
    · exact .same _

theorem delayProblems_grows (h : now.atMost later = .ok true) (id : String) (data : NodeData) :
    Grows (delayProblems id now data) (delayProblems id later data) := by
  unfold delayProblems
  split
  · rename_i d
    split
    · exact .same _
    · split
      · split
        · exact .same _
        · rename_i t _
          refine (Moment.atMost_monotone h t).bind fun early late hpast => ?_
          exact .results (sublist_of_imp hpast)
      · split
        · refine (unitProblems_grows h id d.amount d.unit).bind fun ps qs hsub => ?_
          exact .results (hsub.append_left _)
        · exact .same _
  · exact .same _

/-! ## 2. The whole check -/

theorem nodeProblems_grows (h : now.atMost later = .ok true) (n : Node) :
    Grows (nodeProblems now n) (nodeProblems later n) := by
  unfold nodeProblems
  split
  · exact .same _
  · cases n.kind with
    | delay => exact delayProblems_grows h n.id n.data
    | _ => exact .same _

theorem nodesProblems_grows (h : now.atMost later = .ok true) (seen : List String) (ns : List Node) :
    Grows (nodesProblems now seen ns) (nodesProblems later seen ns) := by
  induction ns generalizing seen with
  | nil => exact .same []
  | cons n ns ih =>
    unfold nodesProblems
    refine (nodeProblems_grows h n).bind fun own own' hown => ?_
    refine (ih (n.id :: seen)).bind fun rest rest' hrest => ?_
    exact .results ((hown.append_left _).append hrest)

/-- **Reports grow**: the nodes one by one, and every other part of the report stays as it is. -/
theorem problems_grows (h : now.atMost later = .ok true) (f : Flow) :
    Grows (f.problems now) (f.problems later) := by
  unfold Flow.problems
  split
  · exact .same _
  · refine (nodesProblems_grows h [] f.nodes).bind fun own own' hown => ?_
    refine .results ?_
    exact ((hown.append_left _).append_right _).append_right _

end Check

namespace Flow

open Check

/-- **The check gets stricter as time passes.** At a later clock it reports everything that it reported
    before, in the same order and wording. It has a report whenever no delay waits for a time without an
    offset; in general it ends with the same fault as before, if with any. What it accepts later it has
    accepted all the time. -/
theorem stricter_as_time_passes {now later : Moment} (hle : now.atMost later = .ok true) (f : Flow) :
    (now.isAnchored = true → (∀ n ∈ f.nodes, n.isUnplaced = false) →
      ∃ ps qs, f.problems now = .ok ps ∧ f.problems later = .ok qs ∧ ps.Sublist qs ∧
        (ps.map Problem.message).Sublist (qs.map Problem.message)) ∧
    (∀ qs, f.problems later = .ok qs → ∃ ps, f.problems now = .ok ps ∧ ps.Sublist qs) ∧
    (∀ fault, f.problems now = .error fault ↔ f.problems later = .error fault) ∧
    (f.isAccepted later = true → f.isAccepted now = true) := by
  have hgrows := problems_grows hle f
  refine ⟨fun hnow hplaced => ?_, fun qs hqs => hgrows.exists_of_ok hqs, hgrows.error_iff,
    fun haccepted => ?_⟩
  · have hlater : later.isAnchored = true := (Moment.isAnchored_of_atMost hle).symm.trans hnow
    obtain ⟨qs, hqs⟩ := exists_problems hlater hplaced
    obtain ⟨ps, hps, hsub⟩ := hgrows.exists_of_ok hqs
    exact ⟨ps, qs, hps, hqs, hsub, hsub.map Problem.message⟩
  · unfold isAccepted at haccepted ⊢
    split at haccepted
    · rename_i hnone
      obtain ⟨ps, hps, hsub⟩ := hgrows.exists_of_ok hnone
      rw [hps, List.sublist_nil.mp hsub]
    · cases haccepted

/-- A flow with a time, an amount and a message that is missing. -/
def overdue : Flow where
  nodes := [⟨"start", .start, .empty⟩, ⟨"wait", .delay, .delay (.upTo .lastMilli)⟩, ⟨"mail", .action, .action none⟩,
    ⟨"pause", .delay, .delay (.hours 3)⟩, ⟨"end", .finish, .empty⟩]
  edges := [⟨"e1", "start", "wait", none⟩, ⟨"e2", "wait", "mail", none⟩, ⟨"e3", "mail", "pause", none⟩,
    ⟨"e4", "pause", "end", none⟩]

/-- At the last moment of the calendar its time is past and its amount too large. -/
theorem stricter_as_time_passes_overdue :
    noon2030.atMost .last = .ok true ∧ noon2030.isAnchored = true ∧
      (∀ n ∈ overdue.nodes, n.isUnplaced = false) ∧
      overdue.problems noon2030 = .ok [.missingMessage "mail"] ∧
      overdue.problems .last =
        .ok [.pastTime "wait", .missingMessage "mail", .amountTooLarge "pause"] ∧
      [Problem.missingMessage "mail"].Sublist
        [.pastTime "wait", .missingMessage "mail", .amountTooLarge "pause"] := by
  have hle : noon2030.atMost .last = .ok true := by decide +kernel
  have hplaced : ∀ n ∈ overdue.nodes, n.isUnplaced = false := by decide +kernel
  have hearly : overdue.problems noon2030 = .ok [.missingMessage "mail"] := by decide +kernel
  have hlate : overdue.problems .last =
      .ok [.pastTime "wait", .missingMessage "mail", .amountTooLarge "pause"] := by decide +kernel
  obtain ⟨ps, qs, hps, hqs, hsub, _⟩ := (stricter_as_time_passes hle overdue).1 rfl hplaced
  cases hearly.symm.trans hps
  cases hlate.symm.trans hqs
  exact ⟨hle, rfl, hplaced, hearly, hlate, hsub⟩

end Flow

end Dripline
