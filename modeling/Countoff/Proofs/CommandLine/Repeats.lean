import Countoff.Proofs.CommandLine.RangeOptions

/-!
# Command lines that repeat an option

An option may be given once. A second time it is refused, though not at once: where its value stands
apart, the option is settled only when the next one or the end of the line is reached, and until
then the state is doomed (`State.Doomed`). Whatever follows comes too late, so every command line
that gives one option twice is refused for it (`read_repeated`). For requests this completes what is
known of their spellings: each field once and in any order makes the request, and one occurrence
more of any of them unmakes it (`RangeOptions.parse_spellings`).
-/

namespace Countoff.CommandLine

variable {α : Type}

theorem Written.append {grammar : List (Opt α)} {front back : List (Given α)}
    {before after : List String} (hfront : Written grammar front before)
    (hback : Written grammar back after) : Written grammar (front ++ back) (before ++ after) := by
  induction hfront with
  | nil => exact hback
  | cons hlisted hsets hspells _ ih =>
    rw [List.append_assoc]
    exact .cons hlisted hsets hspells ih

/-- What has been read will be refused as soon as it is settled. -/
structure State.Doomed (state : State α) (misuse : Misuse) : Prop where
  settle : state.settle = fail misuse
  trailing : state.trailing = false
  awaits : ∀ opt, state.pending ≠ some ⟨opt, none⟩

section Doomed

variable {grammar : List (Opt α)} {opt : Opt α} {value : Option String} {set : α → α}
  {seen : List String} {config : α} {state : State α} {misuse : Misuse} {arguments : List String}

theorem give_of_repeated (h : opt.Sets value set) (hrepeated : opt.name ∈ seen) :
    State.give ⟨seen, config, none, false⟩ opt value = fail (.repeated opt.display) := by
  rw [State.give, if_neg h.not_missing, if_pos hrepeated]

/-- An option that was given before is refused at once, or when it is settled. -/
theorem read_of_repeated (hlisted : opt.Listed grammar) (hsets : opt.Sets value set)
    (hspells : opt.Spells value arguments) (hrepeated : opt.name ∈ seen)
    (hstands : state.Stands seen config) :
    arguments.foldlM (State.read grammar) state = fail (.repeated opt.display) ∨
      ∃ next, arguments.foldlM (State.read grammar) state = .ok next ∧
        next.Doomed (.repeated opt.display) := by
  have hgive : State.give ⟨seen, config, none, false⟩ opt value = _ :=
    give_of_repeated hsets hrepeated
  rcases foldlM_of_spells hlisted hsets hspells hstands.trailing hstands.awaits
    (fun _ => hstands.trailing_of_settle) with hread | ⟨hvalue, hread⟩
  · left
    rw [hread, hstands.settle]
    exact hgive
  · right
    refine ⟨⟨seen, config, some ⟨opt, value⟩, false⟩, ?_, hgive, rfl, ?_⟩
    · rw [hread, hstands.settle]
      rfl
    · rintro other hother
      cases hother
      exact hvalue rfl

/-- The next option settles what stands in front of it. -/
theorem State.Doomed.read (h : state.Doomed misuse) (hlisted : opt.Listed grammar)
    (hsets : opt.Sets value set) (hspells : opt.Spells value arguments) :
    arguments.foldlM (State.read grammar) state = fail misuse := by
  have hsettle : ∀ next, state.settle = .ok next → next.trailing = false := by
    intro next hnext
    rw [h.settle] at hnext
    cases hnext
  rcases foldlM_of_spells hlisted hsets hspells h.trailing h.awaits hsettle with
    hread | ⟨-, hread⟩
  · rw [hread, h.settle]
    rfl
  · rw [hread, h.settle]
    rfl

/-- Nothing that follows can mend a doomed state, and the end of the line settles it. -/
theorem State.Doomed.rest {givens : List (Given α)} (h : state.Doomed misuse)
    (hwritten : Written grammar givens arguments) :
    (arguments.foldlM (State.read grammar) state >>= State.settle) = fail misuse := by
  cases hwritten with
  | nil => exact h.settle
  | cons hlisted hsets hspells _ =>
    rw [List.foldlM_append, h.read hlisted hsets hspells]
    rfl

end Doomed

/-- A command line that repeats an option is refused for it, whatever stands in front of the
second occurrence, between the two, or behind. -/
theorem read_repeated {grammar : List (Opt α)} {front back : List (Given α)} {again : Given α}
    {before arguments after : List String} (hfront : Written grammar front before)
    (hdistinct : (front.map (·.opt.name)).Nodup) (hlisted : again.opt.Listed grammar)
    (hsets : again.opt.Sets again.value again.set)
    (hspells : again.opt.Spells again.value arguments)
    (hrepeated : again.opt.name ∈ front.map (·.opt.name)) (hback : Written grammar back after)
    (usual : α) :
    CommandLine.read grammar usual (before ++ (arguments ++ after)) =
      fail (.repeated again.opt.display) := by
  have hstart := State.stands_of_settled (α := α) [] usual
  obtain ⟨state, seen, hbefore, hstands, hseen⟩ :=
    foldlM_read_of_written hfront hstart (by simp) hdistinct
  have hmem : again.opt.name ∈ seen := (hseen _).2 (.inr hrepeated)
  have hstop : ((arguments ++ after).foldlM (State.read grammar) state >>= State.settle) =
      fail (.repeated again.opt.display) := by
    rw [List.foldlM_append]
    rcases read_of_repeated hlisted hsets hspells hmem hstands with hread | ⟨next, hread, hdoomed⟩
    · rw [hread]
      rfl
    · rw [hread]
      exact hdoomed.rest hback
  rw [CommandLine.read, List.foldlM_append, hbefore]
  show ((arguments ++ after).foldlM (State.read grammar) state >>= fun state =>
    state.settle >>= fun state => pure state.config) = _
  rw [← bind_assoc, hstop]
  rfl

namespace RangeOptions

variable {options : RangeOptions} {first second : List Field} {before after : List String}

theorem Spelled.append (hbefore : Spelled options first before)
    (hafter : Spelled options second after) :
    Spelled options (first ++ second) (before ++ after) := by
  induction hbefore with
  | nil => exact hafter
  | cons hvalue hspells _ ih =>
    rw [List.append_assoc]
    exact .cons hvalue hspells ih

theorem Spelled.split {fields : List Field} {arguments : List String}
    (h : Spelled options fields arguments) (hfields : fields = first ++ second) :
    ∃ before after, arguments = before ++ after ∧ Spelled options first before ∧
      Spelled options second after := by
  induction first generalizing fields arguments with
  | nil =>
    subst hfields
    exact ⟨[], arguments, rfl, .nil, h⟩
  | cons field first ih =>
    subst hfields
    cases h with
    | @cons _ _ _ arguments rest hvalue hspells hrest =>
      obtain ⟨before, after, rfl, hbefore, hafter⟩ := ih hrest rfl
      exact ⟨arguments ++ before, after, (List.append_assoc ..).symm,
        .cons hvalue hspells hbefore, hafter⟩

/-- One occurrence more of a field, be it behind the other one or in front of it, is refused. -/
theorem parse_repeated {other : RangeOptions} {field : Field} {value : Option String}
    {extra : List String} (hbefore : Spelled options first before)
    (hafter : Spelled options second after) (hdistinct : (first ++ second).Nodup)
    (hfield : field ∈ first ++ second) (hvalue : field.Value other value)
    (hspells : field.opt.Spells value extra) :
    parse (before ++ (extra ++ after)) = fail (.repeated field.opt.display) := by
  let again : Given RangeOptions := ⟨field.opt, value, fun config => field.copy other config⟩
  have hagain : again.opt.Sets again.value again.set := hvalue.sets
  obtain ⟨front, hfront, hfrontNames, -⟩ := hbefore.written
  rcases List.mem_append.1 hfield with hmem | hmem
  · -- the occurrence that is added comes second
    obtain ⟨back, hback, -, -⟩ := hafter.written
    refine read_repeated hfront ?_ field.opt_listed hagain hspells ?_ hback usual
    · rw [hfrontNames]
      exact hdistinct.of_append_left.map Field.name_injective
    · rw [hfrontNames]
      exact List.mem_map_of_mem hmem
  · -- the occurrence that is added comes first, and the one that was there is refused
    obtain ⟨between, rest, rfl⟩ := List.append_of_mem hmem
    obtain ⟨middle, tail, rfl, hmiddle, htail⟩ := hafter.split rfl
    obtain ⟨givens, hgivens, hgivensNames, -⟩ := hmiddle.written
    cases htail with
    | @cons _ _ value' original tail hvalue' hspells' htail =>
      obtain ⟨back, hback, -, -⟩ := htail.written
      let first' : Given RangeOptions :=
        ⟨field.opt, value', fun config => field.copy options config⟩
      have hwritten : Written grammar (front ++ again :: givens)
          (before ++ (extra ++ middle)) :=
        hfront.append (.cons field.opt_listed hagain hspells hgivens)
      have hnames : (front ++ again :: givens).map (·.opt.name) =
          (first ++ field :: between).map (·.opt.name) := by
        rw [List.map_append, List.map_cons, hfrontNames, hgivensNames, List.map_append,
          List.map_cons]
      have hnodup : (first ++ field :: between).Nodup := by
        have hperm : (first ++ (between ++ field :: rest)).Perm
            (first ++ field :: between ++ rest) := by
          rw [List.append_assoc]
          exact List.Perm.append_left first List.perm_middle
        exact (hperm.nodup_iff.1 hdistinct).of_append_left
      have hmem : first'.opt.name ∈ (front ++ again :: givens).map (·.opt.name) := by
        simp [first', again]
      have hread := read_repeated hwritten (hnames ▸ hnodup.map Field.name_injective)
        field.opt_listed hvalue'.sets hspells' hmem hback usual
      rw [parse]
      simpa only [List.append_assoc] using hread

/-- **Every spelling of a request is read as it**: fields with their usual values may be left out,
all others are given once, in any order and notation. One more occurrence of a field that is given,
at any boundary between options and with any value that is good for some request, is refused as a
repetition. -/
theorem parse_spellings {fields : List Field} {arguments : List String}
    (h : Spelled options fields arguments) (hdistinct : fields.Nodup)
    (hcomplete : ∀ field, field ∈ fields ∨ field.copy options usual = usual) :
    parse arguments = .ok options ∧
      ∀ (first second : List Field) (before after : List String), fields = first ++ second →
        arguments = before ++ after → Spelled options first before →
        Spelled options second after → ∀ (field : Field) (other : RangeOptions)
          (value : Option String) (extra : List String), field ∈ fields →
          field.Value other value → field.opt.Spells value extra →
          parse (before ++ (extra ++ after)) = fail (.repeated field.opt.display) := by
  refine ⟨parse_of_spelled h hdistinct hcomplete, ?_⟩
  rintro first second before after rfl rfl hbefore hafter field other value extra hfield hvalue
    hspells
  exact parse_repeated hbefore hafter hdistinct hfield hvalue hspells

/-- A request at the lower limit, with a dash for its path, and a second start in front of the
first one. -/
theorem parse_spellings_at_limit :
    let options : RangeOptions := ⟨Int64.minValue, 10000, true, .csv, some "-", true⟩
    let before := ["--output", "-", "-v", "--half-open"]
    let after := ["--start", "-9223372036854775808", "--format=csv"]
    parse (before ++ after) = .ok options ∧
      parse (before ++ (["--start=+07"] ++ after)) = fail (.repeated "--start <START>") := by
  intro options before after
  have hstart : Text.Numeral options.start.toInt "-9223372036854775808" :=
    Text.readInt64_eq_ok.1 rfl
  have hseven : Text.Numeral (Int64.toInt 7) "+07" := Text.readInt64_eq_ok.1 rfl
  have hbefore : Spelled options [.output, .verbose, .halfOpen] before :=
    .cons (.output rfl) (.apart "-" (.inr (.inl rfl))) <| .cons (.verbose rfl) (.letter 'v' rfl) <|
      .cons (.halfOpen rfl) .flag .nil
  have hformat : Spelled options [.format] ["--format=csv"] := by
    have h : Spelled options _ _ := .cons .format (.joined "csv") .nil
    exact h
  have hafter : Spelled options [.start, .format] after :=
    .cons (.start hstart) (.apart _ (takesApart_of_numeral rfl hstart)) hformat
  have hspells : startOption.Spells (some "+07") ["--start=+07"] := .joined "+07"
  have hcomplete : ∀ field, field ∈ [Field.output, .verbose, .halfOpen, .start, .format] ∨
      field.copy options usual = usual := by
    intro field
    cases field <;> decide
  obtain ⟨hparse, hrepeats⟩ :=
    parse_spellings (hbefore.append hafter) (by decide) hcomplete
  have hvalue : Field.start.Value { options with start := 7 } (some "+07") := .start hseven
  exact ⟨hparse, hrepeats _ _ _ _ rfl rfl hbefore hafter .start _ _ _ (by decide) hvalue hspells⟩

end RangeOptions

end Countoff.CommandLine
