import Countoff.CommandLine.Grammar
import Mathlib.Data.List.TakeWhile

/-!
# Command lines that give options

An option can be written in several ways: its value behind an equals sign or as the next argument,
a flag by its name or its letter (`Opt.Spells`). Whatever way is chosen for each, reading a command
line that gives options of a grammar, none of them twice, comes to what the options do to the usual
configuration, one after the other (`read_written`).
-/

namespace Countoff.CommandLine

variable {α : Type}

/-! ## Spellings -/

/-- What an option does to a configuration when it is given with a value, or without. -/
inductive Opt.Sets (opt : Opt α) : Option String → (α → α) → Prop where
  | value {placeholder : String} {negative : Bool} {read : String → Except Refusal (α → α)}
    {text : String} {set : α → α} (hkind : opt.kind = .value placeholder negative read)
    (hread : read text = .ok set) : Sets opt (some text) set
  | flag {set : α → α} (hkind : opt.kind = .flag set) : Sets opt none set

/-- Whether a value can be the argument behind the name of an option: one that begins with a dash
has to be a dash alone, or a number where the option allows negative ones. -/
def Opt.TakesApart (opt : Opt α) (text : String) : Prop :=
  text.toList.head? ≠ some '-' ∨ text.toList = ['-'] ∨
    opt.allowsNegative = true ∧ ∃ number, text.toList = '-' :: number ∧ isNumber number = true

/-- The arguments that give an option, with a value or without. -/
inductive Opt.Spells (opt : Opt α) : Option String → List String → Prop where
  | joined (text : String) :
    Spells opt (some text) ["--" ++ opt.name ++ "=" ++ text]
  | apart (text : String) (h : opt.TakesApart text) :
    Spells opt (some text) ["--" ++ opt.name, text]
  | flag : Spells opt none ["--" ++ opt.name]
  | letter (c : Char) (h : opt.letter = some c) : Spells opt none ["-".push c]

/-- An option is found in a grammar by its name and by its letter, neither of which can be taken for
anything else. -/
structure Opt.Listed (opt : Opt α) (grammar : List (Opt α)) : Prop where
  name_ne : opt.name.toList ≠ []
  no_equals : '=' ∉ opt.name.toList
  by_name : grammar.find? (fun other => other.name.toList = opt.name.toList) = some opt
  letter_ne : opt.letter ≠ some '-'
  by_letter : ∀ c, opt.letter = some c →
    grammar.find? (fun other => other.letter = some c) = some opt

/-! ## Reading one option -/

/-- What has been read is complete, and comes to this once it is settled. -/
structure State.Stands (state : State α) (seen : List String) (config : α) : Prop where
  settle : state.settle = .ok ⟨seen, config, none, false⟩
  trailing : state.trailing = false
  awaits : ∀ opt, state.pending ≠ some ⟨opt, none⟩

theorem State.stands_of_settled (seen : List String) (config : α) :
    State.Stands ⟨seen, config, none, false⟩ seen config :=
  ⟨rfl, rfl, nofun⟩

theorem State.Stands.trailing_of_settle {state next : State α} {seen : List String} {config : α}
    (h : state.Stands seen config) (hnext : state.settle = .ok next) : next.trailing = false := by
  rw [h.settle] at hnext
  cases hnext
  rfl

section One

variable {grammar : List (Opt α)} {opt : Opt α} {value : Option String} {set : α → α}
  {seen : List String} {config : α} {state : State α}

theorem Opt.Sets.takesValue (h : opt.Sets value set) : opt.takesValue = value.isSome := by
  cases h with
  | value hkind _ => rw [Opt.takesValue, hkind]; rfl
  | flag hkind => rw [Opt.takesValue, hkind]; rfl

theorem Opt.Sets.not_missing (h : opt.Sets value set) :
    ¬(opt.takesValue = true ∧ value = none) := by
  rw [h.takesValue]
  rintro ⟨hsome, rfl⟩
  cases hsome

theorem give_of_sets (h : opt.Sets value set) (hfresh : opt.name ∉ seen) :
    State.give ⟨seen, config, none, false⟩ opt value =
      .ok ⟨opt.name :: seen, set config, none, false⟩ := by
  have heffect : opt.effect value = .ok set := by
    cases h with
    | value hkind hread => simp only [Opt.effect, hkind, hread]
    | flag hkind => simp only [Opt.effect, hkind]
  rw [State.give, if_neg h.not_missing, if_neg hfresh, heffect]
  rfl

theorem take_of_sets (h : opt.Sets value set) (long : Bool) :
    state.take opt value long = state.settle >>= fun next => next.give opt value := by
  unfold State.take
  cases state.settle with
  | error stop => rfl
  | ok next =>
    cases h with
    | value hkind hread => simp only [hkind]
    | flag hkind => simp only [hkind]

/-! ### The readers of arguments -/

theorem read_long {argument : String} {rest : List Char}
    (hlist : argument.toList = '-' :: '-' :: rest) (hne : rest ≠ [])
    (htrailing : state.trailing = false) :
    state.read grammar argument = state.takeLong grammar (rest.takeWhile (· ≠ '='))
      (match rest.drop (rest.takeWhile (· ≠ '=')).length with
        | _ :: value => some value
        | [] => none) := by
  obtain ⟨c, rest, rfl⟩ := List.exists_cons_of_ne_nil hne
  unfold State.read
  rw [htrailing, hlist]
  rfl

theorem ne_equals {name : List Char} (h : '=' ∉ name) :
    ∀ c ∈ name, decide (c ≠ '=') = true := by
  intro c hc
  rw [decide_eq_true_eq]
  rintro rfl
  exact h hc

/-- The name of an option goes up to the first equals sign, and its value begins behind it. -/
theorem read_joined (hlisted : opt.Listed grammar) (htrailing : state.trailing = false)
    (text : String) : state.read grammar ("--" ++ opt.name ++ "=" ++ text) =
      state.takeLong grammar opt.name.toList (some text.toList) := by
  have hlist : ("--" ++ opt.name ++ "=" ++ text).toList =
      '-' :: '-' :: (opt.name.toList ++ '=' :: text.toList) := by
    simp [String.toList_append]
  have hname : (opt.name.toList ++ '=' :: text.toList).takeWhile (· ≠ '=') = opt.name.toList := by
    rw [List.takeWhile_append_of_pos (ne_equals hlisted.no_equals)]
    simp
  rw [read_long hlist (by simp) htrailing, hname, List.drop_left]

theorem read_name (hlisted : opt.Listed grammar) (htrailing : state.trailing = false) :
    state.read grammar ("--" ++ opt.name) = state.takeLong grammar opt.name.toList none := by
  have hlist : ("--" ++ opt.name).toList = '-' :: '-' :: opt.name.toList := by
    simp [String.toList_append]
  have hname : opt.name.toList.takeWhile (· ≠ '=') = opt.name.toList :=
    List.takeWhile_eq_self_iff.mpr (ne_equals hlisted.no_equals)
  rw [read_long hlist hlisted.name_ne htrailing, hname, List.drop_length]

theorem read_letter (hlisted : opt.Listed grammar) (htrailing : state.trailing = false)
    (hawaits : ∀ opt, state.pending ≠ some ⟨opt, none⟩) {c : Char} (h : opt.letter = some c) :
    state.read grammar ("-".push c) = state.takeLetters grammar [c] := by
  have hlist : ("-".push c).toList = ['-', c] := by
    simp
  have hne : c ≠ '-' := by
    rintro rfl
    exact hlisted.letter_ne h
  have hnegative : state.takesNegative = false := by
    unfold State.takesNegative
    split
    · next opt hpending => exact absurd hpending (hawaits opt)
    · rfl
  unfold State.read
  rw [htrailing, hlist]
  simp [hne, hnegative]

/-- The argument behind the name of an option is its value, if it can be. -/
theorem read_apart {text : String} (h : opt.TakesApart text) (htrailing : state.trailing = false)
    (hpending : state.pending = some ⟨opt, none⟩) :
    state.read grammar text = .ok { state with pending := some ⟨opt, some text⟩ } := by
  have hplain : state.takePlain text = .ok { state with pending := some ⟨opt, some text⟩ } := by
    simp only [State.takePlain, hpending]
  have hnegative : state.takesNegative = opt.allowsNegative := by
    simp only [State.takesNegative, hpending]
  rw [← hplain]
  unfold State.read
  rw [htrailing, if_neg (by simp)]
  rcases h with hhead | hdash | ⟨hallows, number, hlist, hnumber⟩
  · split
    · next hlist => simp [hlist] at hhead
    · next rest hlist => simp [hlist] at hhead
    · next c rest hlist => simp [hlist] at hhead
    · rfl
  · rw [hdash]
    rfl
  · rw [hlist]
    cases number with
    | nil => rfl
    | cons c number =>
      have hne : c ≠ '-' := by
        rintro rfl
        simp [isNumber] at hnumber
      simp [hne, hnegative, hallows, hnumber]

/-- The arguments that give an option first settle the one in front of them. Behind that the option
has its effect at once, unless its value stands apart: then it is settled later. -/
theorem foldlM_of_spells {arguments : List String} (hlisted : opt.Listed grammar)
    (hsets : opt.Sets value set) (hspells : opt.Spells value arguments)
    (htrailing : state.trailing = false) (hawaits : ∀ opt, state.pending ≠ some ⟨opt, none⟩)
    (hsettle : ∀ next, state.settle = .ok next → next.trailing = false) :
    arguments.foldlM (State.read grammar) state =
        (state.settle >>= fun next => next.give opt value) ∨
      value ≠ none ∧ arguments.foldlM (State.read grammar) state =
        state.settle.map fun next => { next with pending := some ⟨opt, value⟩ } := by
  have htake : ∀ long, state.take opt value long =
      state.settle >>= fun next => next.give opt value := take_of_sets hsets
  cases hspells with
  | joined text =>
    refine .inl ?_
    rw [List.foldlM_cons, read_joined hlisted htrailing]
    simp [State.takeLong, hlisted.by_name, hsets.takesValue, htake]
  | apart text htext =>
    refine .inr ⟨nofun, ?_⟩
    have hname : state.read grammar ("--" ++ opt.name) = state.await opt := by
      rw [read_name hlisted htrailing]
      simp [State.takeLong, hlisted.by_name, hsets.takesValue]
    rw [List.foldlM_cons, hname, State.await]
    cases hnext : state.settle with
    | error stop => rfl
    | ok next =>
      let waiting : State α := { next with pending := some ⟨opt, none⟩ }
      have hvalue : waiting.read grammar text =
          .ok { waiting with pending := some ⟨opt, some text⟩ } :=
        read_apart htext (hsettle next hnext) rfl
      show waiting.read grammar text >>= _ = _
      rw [hvalue]
      rfl
  | flag =>
    refine .inl ?_
    rw [List.foldlM_cons, read_name hlisted htrailing]
    simp [State.takeLong, hlisted.by_name, hsets.takesValue, htake]
  | letter c hletter =>
    refine .inl ?_
    rw [List.foldlM_cons, read_letter hlisted htrailing hawaits hletter]
    simp only [State.takeLetters, hlisted.by_letter c hletter, hsets.takesValue, htake]
    cases state.settle >>= fun next => next.give opt none <;> rfl

theorem read_of_spells {arguments : List String} (hlisted : opt.Listed grammar)
    (hsets : opt.Sets value set) (hspells : opt.Spells value arguments) (hfresh : opt.name ∉ seen)
    (hstands : state.Stands seen config) :
    ∃ next, arguments.foldlM (State.read grammar) state = .ok next ∧
      next.Stands (opt.name :: seen) (set config) := by
  have hgive : State.give ⟨seen, config, none, false⟩ opt value = _ := give_of_sets hsets hfresh
  rcases foldlM_of_spells hlisted hsets hspells hstands.trailing hstands.awaits
    (fun _ => hstands.trailing_of_settle) with hread | ⟨hvalue, hread⟩
  · refine ⟨_, ?_, State.stands_of_settled _ _⟩
    rw [hread, hstands.settle]
    exact hgive
  · -- the value stays unused until the option is settled
    refine ⟨⟨seen, config, some ⟨opt, value⟩, false⟩, ?_, hgive, rfl, ?_⟩
    · rw [hread, hstands.settle]
      rfl
    · rintro other hother
      cases hother
      exact hvalue rfl

end One

/-! ## Reading a command line -/

/-- An option that is given with a value or without, and what it does to a configuration. -/
structure Given (α : Type) where
  opt : Opt α
  value : Option String
  set : α → α

/-- A command line that gives options of a grammar, each in some way, one after the other. -/
inductive Written (grammar : List (Opt α)) : List (Given α) → List String → Prop where
  | nil : Written grammar [] []
  | cons {given : Given α} {givens : List (Given α)} {arguments rest : List String}
    (hlisted : given.opt.Listed grammar) (hsets : given.opt.Sets given.value given.set)
    (hspells : given.opt.Spells given.value arguments) (hrest : Written grammar givens rest) :
    Written grammar (given :: givens) (arguments ++ rest)

theorem foldlM_read_of_written {grammar : List (Opt α)} {givens : List (Given α)}
    {arguments : List String} (h : Written grammar givens arguments) {seen : List String}
    {config : α} {state : State α} (hstands : state.Stands seen config)
    (hfresh : ∀ given ∈ givens, given.opt.name ∉ seen)
    (hdistinct : (givens.map (·.opt.name)).Nodup) :
    ∃ next seen', arguments.foldlM (State.read grammar) state = .ok next ∧
      next.Stands seen' (givens.foldl (fun config given => given.set config) config) ∧
      ∀ name, name ∈ seen' ↔ name ∈ seen ∨ name ∈ givens.map (·.opt.name) := by
  induction h generalizing seen config state with
  | nil => exact ⟨state, seen, rfl, hstands, by simp⟩
  | @cons given givens arguments rest hlisted hsets hspells _ ih =>
    rw [List.map_cons, List.nodup_cons] at hdistinct
    obtain ⟨between, hread, hbetween⟩ :=
      read_of_spells hlisted hsets hspells (hfresh given List.mem_cons_self) hstands
    have hfresh' : ∀ later ∈ givens, later.opt.name ∉ given.opt.name :: seen := by
      intro later hlater
      rw [List.mem_cons, not_or]
      refine ⟨fun heq => hdistinct.1 ?_, hfresh later (List.mem_cons_of_mem _ hlater)⟩
      exact heq ▸ List.mem_map_of_mem hlater
    obtain ⟨next, seen', hrest, hnext, hseen⟩ := ih hbetween hfresh' hdistinct.2
    refine ⟨next, seen', ?_, hnext, fun name => ?_⟩
    · rw [List.foldlM_append, hread]
      exact hrest
    · rw [hseen, List.mem_cons, List.map_cons, List.mem_cons, or_assoc, or_left_comm]

/-- A command line that gives options, none of them twice, comes to what they do one after the
other. -/
theorem read_written {grammar : List (Opt α)} {givens : List (Given α)} {arguments : List String}
    (h : Written grammar givens arguments) (hdistinct : (givens.map (·.opt.name)).Nodup)
    (usual : α) : read grammar usual arguments =
      .ok (givens.foldl (fun config given => given.set config) usual) := by
  have hstart := State.stands_of_settled (α := α) [] usual
  obtain ⟨next, seen, hread, hnext, -⟩ := foldlM_read_of_written h hstart (by simp) hdistinct
  rw [read, hread]
  show next.settle >>= _ = _
  rw [hnext.settle]
  rfl

end Countoff.CommandLine
