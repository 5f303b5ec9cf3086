import Countoff.Proofs.Interval.Words
import Countoff.Proofs.Run.Faults

/-!
# Runs in parts

What a listing comes to in a format can be had from what its parts come to (`joined_render`). Lines
are put one behind the other. Tables have a header each, and only the first one stays. Arrays lose
the bracket where they meet, and need a comma there only if neither is empty, since the writer puts
commas in front of all elements but the first (`Json.elements_append`). An interval cut in two gives
such parts, so a run over it writes what runs over its halves have written, joined (`parts_join`).
-/

namespace Countoff

/-! ## Joining texts -/

/-- What two texts of a format are joined to. `comma` tells whether something stands on both sides of
the seam. -/
def Format.Joined (comma : Bool) (first second whole : String) : Format → Prop
  | .json => ∃ front back, first = front ++ "]\n" ∧ second = "[" ++ back ∧
    whole = front ++ (if comma then "," else "") ++ back
  | .lines => whole = first ++ second
  | .csv => ∃ upper lower, first = "number,label\n" ++ upper ∧ second = "number,label\n" ++ lower ∧
    whole = "number,label\n" ++ upper ++ lower

namespace Listing

theorem labelChars_append (xs ys : Listing) :
    labelChars (xs ++ ys) = labelChars xs ++ labelChars ys :=
  List.map_append

/-- The elements of an array, without its brackets. -/
def elements (listing : Listing) : String :=
  String.ofList (Json.elements listing.labelChars)

theorem elements_append (xs ys : Listing) :
    elements (xs ++ ys) =
      elements xs ++ (if decide (xs ≠ [] ∧ ys ≠ []) then "," else "") ++ elements ys := by
  unfold elements
  rw [labelChars_append]
  by_cases hxs : xs = []
  · simp [hxs, labelChars, Json.elements]
  by_cases hys : ys = []
  · simp [hys, labelChars, Json.elements]
  have hfirst : labelChars xs ≠ [] := by simpa [labelChars] using hxs
  have hsecond : labelChars ys ≠ [] := by simpa [labelChars] using hys
  rw [Json.elements_append hfirst hsecond, if_pos (by simp [hxs, hys]), List.append_cons,
    String.ofList_append, String.ofList_append]

/-- The elements of an array between its brackets. -/
theorem render_json (listing : Listing) :
    listing.render .json = "[" ++ listing.elements ++ "]\n" := by
  rw [← String.toList_inj]
  simp [render, renderChars, Json.array, elements]

/-- **Listings in parts.** What two listings come to in a format is joined to what both come to
together. -/
theorem joined_render (xs ys : Listing) (format : Format) :
    format.Joined (xs ≠ [] ∧ ys ≠ []) (xs.render format) (ys.render format)
      ((xs ++ ys).render format) := by
  cases format with
  | json =>
    refine ⟨"[" ++ elements xs, elements ys ++ "]\n", render_json xs, ?_, ?_⟩
    · rw [render_json, String.append_assoc]
    · rw [render_json, elements_append]
      simp only [String.append_assoc]
  | lines =>
    show render (xs ++ ys) .lines = render xs .lines ++ render ys .lines
    rw [render, render, render, ← String.ofList_append, renderChars, renderChars, renderChars,
      labelChars_append, Lines.lines, List.flatMap_append]
    rfl
  | csv =>
    refine ⟨_, _, render_csv xs, render_csv ys, ?_⟩
    rw [render_csv, rows, List.map_append, Csv.table, List.flatMap_append, String.ofList_append,
      String.append_assoc]
    rfl

end Listing

/-! ## Intervals in parts -/

namespace Interval

variable {first second whole : Interval}

/-- An interval cut in two lists what its halves list. -/
theorem numbers_append (hstart : whole.start = first.start) (hseam : first.stop = second.start)
    (hstop : whole.stop = second.stop) : whole.numbers = first.numbers ++ second.numbers := by
  have hfirst := first.start_le_stop
  have hsecond := second.start_le_stop
  have hlength : whole.length = first.length + second.length := by
    unfold length
    omega
  have hskip (k : Nat) : whole.start + ((first.length + k : Nat) : Int) = second.start + k := by
    unfold length
    omega
  rw [numbers, hlength, List.range_add, List.map_append, List.map_map, hstart]
  apply congrArg (first.numbers ++ ·)
  apply List.map_congr_left
  intro k _
  rw [Function.comp_apply, ← hstart, hskip]

theorem listing_ne_nil (i : Interval) : i.listing ≠ [] ↔ i.start < i.stop := by
  rw [Ne, ← List.length_eq_zero_iff, length_listing, length]
  omega

end Interval

/-! ## Runs in parts -/

namespace Request

open Outlet (Watch)

/-- Whatever its outlet is and does, a run comes to one write of `text`, and counts `count` integers
where that is taken. -/
def Delivers (request : Request) (text : String) (count : Nat) : Prop :=
  ∀ {σ : Type} (outlet : Outlet (StateM σ)) (before : σ),
    let ran := request.run Watch.log outlet.watched ⟨before, [], []⟩
    outlet.Settles before text count ran.1 ran.2.calls ran.2.state

/-- Bounds in the right order that are close enough make an interval, and a run for it delivers its
listing. -/
theorem exists_delivers {start stop : Int64} (hordered : start ≤ stop)
    (hlength : stop.toInt - start.toInt ≤ 10000000) :
    ∃ i : Interval, (i.start = start.toInt ∧ i.stop = stop.toInt) ∧
      ∀ (format : Format) (path : Option String),
        (⟨start, stop, false, format, path⟩ : Request).Delivers (i.listing.render format)
          (stop.toInt - start.toInt).toNat := by
  rw [Int64.le_iff_toInt_le] at hordered
  obtain ⟨i, hi⟩ := (Interval.halfOpen_exact start stop).accepts.2 ⟨by omega, hlength⟩
  obtain ⟨hstart, hstop⟩ := Interval.halfOpen_eq_ok hi
  refine ⟨i, ⟨hstart, hstop⟩, ?_⟩
  intro format path
  rw [← hstart, ← hstop]
  have hinterval : (⟨start, stop, false, format, path⟩ : Request).interval = .ok i := hi
  intro σ outlet before
  exact run_settles hinterval outlet before

/-- **Listings and runs in parts.** What two listings come to in a format is joined to what both of
them come to together: a header stays once, and a comma stands at the seam if and only if both have
an entry. So it is with runs: where an interval that is not too long is cut in two, all three runs
deliver a text, and that of the whole is joined from those of its halves. -/
theorem parts_join :
    (∀ (xs ys : Listing) (format : Format),
      format.Joined (xs ≠ [] ∧ ys ≠ []) (xs.render format) (ys.render format)
        ((xs ++ ys).render format)) ∧
      ∀ (a b c : Int64) (format : Format) (p q r : Option String),
        a ≤ b → b ≤ c → c.toInt - a.toInt ≤ 10000000 →
          ∃ first second whole, format.Joined (a < b ∧ b < c) first second whole ∧
            (⟨a, b, false, format, p⟩ : Request).Delivers first (b.toInt - a.toInt).toNat ∧
            (⟨b, c, false, format, q⟩ : Request).Delivers second (c.toInt - b.toInt).toNat ∧
            (⟨a, c, false, format, r⟩ : Request).Delivers whole (c.toInt - a.toInt).toNat := by
  refine ⟨Listing.joined_render, ?_⟩
  intro a b c format p q r hab hbc hlength
  have hab' := Int64.le_iff_toInt_le.1 hab
  have hbc' := Int64.le_iff_toInt_le.1 hbc
  obtain ⟨first, ⟨hstart, hseam⟩, hfirst⟩ := exists_delivers hab (by omega)
  obtain ⟨second, ⟨hseam', hstop⟩, hsecond⟩ := exists_delivers hbc (by omega)
  obtain ⟨whole, ⟨hstart', hstop'⟩, hwhole⟩ := exists_delivers (Int64.le_trans hab hbc) hlength
  refine ⟨_, _, _, ?_, hfirst format p, hsecond format q, hwhole format r⟩
  have hnumbers : whole.numbers = first.numbers ++ second.numbers :=
    Interval.numbers_append (by omega) (by omega) (by omega)
  have hlisting : whole.listing = first.listing ++ second.listing := by
    rw [Interval.listing, hnumbers, Listing.ofNumbers_append]
    rfl
  have hcomma : (first.listing ≠ [] ∧ second.listing ≠ []) ↔ (a < b ∧ b < c) := by
    rw [first.listing_ne_nil, second.listing_ne_nil, Int64.lt_iff_toInt_lt, Int64.lt_iff_toInt_lt,
      hstart, hseam, hseam', hstop]
  rw [hlisting, ← decide_eq_decide.2 hcomma]
  exact Listing.joined_render first.listing second.listing format

/-- From three below zero up to four, cut at zero. -/
theorem parts_join_at_zero :
    ((-3 : Int64) ≤ 0 ∧ (0 : Int64) ≤ 4 ∧ (4 : Int64).toInt - (-3 : Int64).toInt ≤ 10000000) ∧
      ∃ first second whole, Format.json.Joined true first second whole ∧
        (⟨-3, 0, false, .json, none⟩ : Request).Delivers first 3 ∧
        (⟨0, 4, false, .json, none⟩ : Request).Delivers second 4 ∧
        (⟨-3, 4, false, .json, some "out"⟩ : Request).Delivers whole 7 := by
  refine ⟨by decide, ?_⟩
  exact parts_join.2 (-3) 0 4 .json none none (some "out") (by decide) (by decide) (by decide)

end Request

end Countoff
