import Countoff.Proofs.Format.Plain
import Countoff.Proofs.Program.Rehearsal

/-!
# What a report tells

The report of a dry run is words and numerals with fixed texts between them, and the destination at
its end, which may be any text at all, also one that sounds like a report. Each word is ended by a
character that is in no word, so a report can be taken apart from the left, and no two plans have the
same report (`Plan.report_inj`). A plan names its destination, though, and standard output has a name
that a file may have as well. That is all that reports leave open (`Request.dryRun_identifies`).
-/

namespace Countoff

/-! ## Words in front -/

theorem IsWord.takeWhile_append {word : List Char} (h : IsWord word) {d : Char}
    (hd : ¬IsWordChar d) (rest : List Char) :
    (word ++ d :: rest).takeWhile (fun c => IsWordChar c) = word := by
  rw [List.takeWhile_append_of_pos]
  · rw [List.takeWhile_cons_of_neg (by simpa using hd), List.append_nil]
  · intro c hc
    simpa using h c hc

/-- A text that ends a word in front of it. -/
def EndsAnyWord (text : String) : Prop :=
  ∃ c cs, text.toList = c :: cs ∧ ¬IsWordChar c

/-- Where two texts begin with words, and go on with the same end of a word, the words are the same,
and so is what follows. -/
theorem IsWord.append_inj {word word' between rest rest' : String} (hword : IsWord word.toList)
    (hword' : IsWord word'.toList) (hbetween : EndsAnyWord between)
    (h : word ++ (between ++ rest) = word' ++ (between ++ rest')) : word = word' ∧ rest = rest' := by
  obtain ⟨c, cs, hcs, hc⟩ := hbetween
  have hlist : word.toList ++ c :: (cs ++ rest.toList) = word'.toList ++ c :: (cs ++ rest'.toList) := by
    have hchars := congrArg String.toList h
    simpa only [String.toList_append, hcs, List.cons_append] using hchars
  have hsame : word = word' := by
    rw [← String.toList_inj, ← hword.takeWhile_append hc (cs ++ rest.toList), hlist,
      hword'.takeWhile_append hc]
  subst hsame
  rw [String.append_right_inj, String.append_right_inj] at h
  exact ⟨rfl, h⟩

theorem isWord_repr (n : Nat) : IsWord n.repr.toList :=
  fun _ => mem_toString_nat

theorem isWord_title (format : Format) : IsWord format.title.toList := by
  have hletters : format.title.toList.all Char.isAlphanum = true := by
    cases format <;> decide
  intro c hc
  exact .inl (List.all_eq_true.1 hletters c hc)

theorem Format.title_inj {format other : Format} : format.title = other.title ↔ format = other := by
  cases format <;> cases other <;> decide

theorem toString_int_inj {n m : Int} : toString n = toString m ↔ n = m := by
  rw [Int.toString_eq_repr, Int.toString_eq_repr, Int.repr_inj]

/-! ## Reports -/

namespace Plan

/-- A report taken apart. -/
theorem report_eq (plan : Plan) :
    plan.report = "Dry run: would classify " ++ (plan.count.repr ++ (" numbers (" ++
      (toString plan.start ++ (".." ++ (toString plan.stop ++ (") as " ++
        (plan.format.title ++ (" into " ++ plan.destination)))))))) := by
  have hself (text : String) : toString text = text := rfl
  unfold report bounds
  simp only [hself, Nat.toString_eq_repr, String.append_assoc]

/-- No two plans are told in the same words. -/
theorem report_inj {plan other : Plan} : plan.report = other.report ↔ plan = other := by
  constructor
  · intro h
    rw [report_eq, report_eq, String.append_right_inj] at h
    obtain ⟨hcount, h⟩ :=
      (isWord_repr _).append_inj (isWord_repr _) ⟨' ', _, rfl, by decide⟩ h
    obtain ⟨hstart, h⟩ :=
      (isWord_toString _).append_inj (isWord_toString _) ⟨'.', _, rfl, by decide⟩ h
    obtain ⟨hstop, h⟩ :=
      (isWord_toString _).append_inj (isWord_toString _) ⟨')', _, rfl, by decide⟩ h
    obtain ⟨hformat, hdestination⟩ :=
      (isWord_title _).append_inj (isWord_title _) ⟨' ', _, rfl, by decide⟩ h
    rw [Nat.repr_inj] at hcount
    rw [toString_int_inj] at hstart hstop
    rw [Format.title_inj] at hformat
    obtain ⟨count, start, stop, format, destination⟩ := plan
    subst hcount hstart hstop hformat hdestination
    rfl
  · rintro rfl
    rfl

end Plan

/-! ## Requests -/

namespace Request

variable {request other : Request} {i j : Interval}

/-- An interval is its bounds, and they make up a plan together with a format and a destination. -/
theorem plan_inj : request.plan i = other.plan j ↔
    i = j ∧ request.format = other.format ∧ request.destination = other.destination := by
  constructor
  · intro h
    obtain ⟨-, hstart, hstop, hformat, hdestination⟩ := Plan.mk.inj h
    refine ⟨?_, hformat, hdestination⟩
    cases i
    cases j
    cases hstart
    cases hstop
    rfl
  · rintro ⟨rfl, hformat, hdestination⟩
    rw [plan, plan, hformat, hdestination]

/-- Standard output, and the file of that name. -/
def Confused (path path' : Option String) : Prop :=
  path = none ∧ path' = some "stdout" ∨ path = some "stdout" ∧ path' = none

theorem Confused.ne {path path' : Option String} (h : Confused path path') : path ≠ path' := by
  rintro rfl
  unfold Confused at h
  cases path with
  | none => simp at h
  | some name => simp at h

theorem destination_eq_iff :
    request.destination = other.destination ↔
      request.path = other.path ∨ Confused request.path other.path := by
  unfold destination Confused
  cases request.path with
  | none =>
    cases other.path with
    | none => simp
    | some name => simp [eq_comm]
  | some name =>
    cases other.path with
    | none => simp
    | some name' => simp

/-- **A report identifies the plan.** Two requests that can be met have reports, and these are the same
if and only if the requests come to the same integers, format and destination, however their bounds
are given. Plans with the same report that differ all the same agree in integers and format, and one of
them is to write to standard output, the other to a file with its name. -/
theorem dryRun_identifies (h : request.interval = .ok i) (hother : other.interval = .ok j) :
    ∃ report report', request.dryRun = .ok report ∧ other.dryRun = .ok report' ∧
      (report = report' ↔
        i = j ∧ request.format = other.format ∧ request.destination = other.destination) ∧
      (report = report' ∧
          ¬(i = j ∧ request.format = other.format ∧ request.path = other.path) ↔
        i = j ∧ request.format = other.format ∧ Confused request.path other.path) := by
  have hsame : (request.plan i).report = (other.plan j).report ↔
      i = j ∧ request.format = other.format ∧ request.destination = other.destination := by
    rw [Plan.report_inj, plan_inj]
  refine ⟨_, _, dryRun_eq h, dryRun_eq hother, hsame, ?_⟩
  rw [hsame, destination_eq_iff]
  constructor
  · rintro ⟨⟨hinterval, hformat, hpath | hconfused⟩, hdiffer⟩
    · exact absurd ⟨hinterval, hformat, hpath⟩ hdiffer
    · exact ⟨hinterval, hformat, hconfused⟩
  · rintro ⟨hinterval, hformat, hconfused⟩
    exact ⟨⟨hinterval, hformat, .inr hconfused⟩, fun hplan => hconfused.ne hplan.2.2⟩

/-- An empty range below zero, once for standard output and once for a file of that name. -/
theorem dryRun_identifies_of_stdout :
    let request : Request := ⟨-3, -3, false, .csv, none⟩
    let other : Request := ⟨-3, -3, false, .csv, some "stdout"⟩
    ∃ i, request.interval = .ok i ∧ other.interval = .ok i ∧
      Confused request.path other.path ∧
        ∃ report, request.dryRun = .ok report ∧ other.dryRun = .ok report := by
  intro request other
  let i : Interval := ⟨-3, -3, by decide, by decide, by decide, by decide⟩
  have hrequest : request.interval = .ok i := by decide
  have hother : other.interval = .ok i := by decide
  have hconfused : Confused request.path other.path := .inl ⟨rfl, rfl⟩
  obtain ⟨report, report', hreport, hreport', -, honly⟩ := dryRun_identifies hrequest hother
  have hsame : report = report' := (honly.2 ⟨rfl, rfl, hconfused⟩).1
  subst hsame
  exact ⟨i, hrequest, hother, hconfused, report, hreport, hreport'⟩

end Request

end Countoff
