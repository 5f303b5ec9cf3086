import Countoff.Proofs.CommandLine.Grammar
import Countoff.Proofs.Except

/-!
# A flag more on a command line

A flag may stand at any boundary between options. Where a command line is read both with it and
without it, the two readings go side by side: they await the same values, and what they come to
when they are settled differs by what the flag sets (`State.Apart`). Every argument keeps them so
(`State.Apart.read`), if what the other options do commutes with the flag; so all that the flag
changes is what it sets (`read_with_flag`).
-/

namespace Countoff.CommandLine

variable {α : Type}

/-! ## Settling -/

/-- The option whose value is to follow, if one is awaited. -/
def State.awaited? (state : State α) : Option (Opt α) :=
  match state.pending with
  | some ⟨opt, none⟩ => some opt
  | _ => none

namespace State

variable {state next : State α} {opt : Opt α} {value : Option String}

theorem give_eq_ok (h : state.give opt value = .ok next) :
    ∃ set, opt.effect value = .ok set ∧
      next = { state with seen := opt.name :: state.seen, config := set state.config } := by
  unfold give at h
  split at h
  · cases h
  split at h
  · cases h
  obtain ⟨set, heffect, hnext⟩ := bind_eq_ok.1 h
  cases hnext
  exact ⟨set, heffect, rfl⟩

theorem settle_eq_ok (h : state.settle = .ok next) :
    next.pending = none ∧ next.trailing = state.trailing := by
  unfold settle at h
  split at h
  · next hpending =>
    cases h
    exact ⟨hpending, rfl⟩
  · obtain ⟨set, -, rfl⟩ := give_eq_ok h
    exact ⟨rfl, rfl⟩

theorem settle_of_settled (h : state.pending = none) : state.settle = .ok state := by
  rw [settle, h]

theorem settle_of_awaited (h : state.awaited? = some opt) :
    state.settle = ({ state with pending := none } : State α).give opt none := by
  unfold awaited? at h
  split at h
  · next hpending =>
    cases h
    rw [settle, hpending]
  · cases h

/-- Two dashes change nothing about what has been read. -/
theorem settle_trail (state : State α) :
    ({ state with trailing := true } : State α).settle =
      state.settle.map fun next => { next with trailing := true } := by
  rcases state with ⟨seen, config, _ | ⟨opt, value⟩, trailing⟩
  · rfl
  · simp only [settle, give]
    split
    · rfl
    split
    · rfl
    cases opt.effect value with
    | error stop => rfl
    | ok set => rfl

/-- An awaited value that has not come is missing. -/
theorem awaited?_of_settle (h : state.settle = .ok next)
    (htakes : ∀ opt, state.awaited? = some opt → opt.takesValue = true) :
    state.awaited? = none := by
  cases hawaited : state.awaited? with
  | none => rfl
  | some opt =>
    rw [settle_of_awaited hawaited, give, if_pos ⟨htakes opt hawaited, rfl⟩] at h
    cases h

/-! ## Taking options -/

theorem take_eq_ok {long : Bool} (h : state.take opt value long = .ok next) :
    ∃ settled, state.settle = .ok settled ∧ settled.give opt value = .ok next := by
  obtain ⟨settled, hsettle, hnext⟩ := bind_eq_ok.1 h
  refine ⟨settled, hsettle, ?_⟩
  split at hnext
  · cases hnext
  · exact hnext

theorem await_eq_ok (h : state.await opt = .ok next) :
    ∃ settled, state.settle = .ok settled ∧
      next = { settled with pending := some ⟨opt, none⟩ } := by
  obtain ⟨settled, hsettle, hnext⟩ := bind_eq_ok.1 h
  cases hnext
  exact ⟨settled, hsettle, rfl⟩

theorem takePlain_eq_ok {argument : String} (h : state.takePlain argument = .ok next) :
    ∃ opt, state.awaited? = some opt ∧
      next = { state with pending := some ⟨opt, some argument⟩ } := by
  unfold takePlain at h
  split at h
  · next opt hpending =>
    cases h
    exact ⟨opt, by rw [awaited?, hpending], rfl⟩
  · cases h

theorem takesNegative_eq (state : State α) :
    state.takesNegative = state.awaited?.any Opt.allowsNegative := by
  unfold takesNegative awaited?
  rcases state.pending with _ | ⟨opt, _ | value⟩
  · rfl
  · rfl
  · rfl

end State

/-! ## Side by side -/

/-- Two readings of a command line that await the same value, and that come to configurations of
which one is the other with an effect besides. -/
structure State.Apart (grammar : List (Opt α)) (set : α → α) (state state' : State α) : Prop where
  trailing : state'.trailing = state.trailing
  awaited : state'.awaited? = state.awaited?
  waits : ∀ opt, state.awaited? = some opt →
    opt ∈ grammar ∧ opt.takesValue = true ∧ state'.config = set state.config
  settle : ∀ next next', state.settle = .ok next → state'.settle = .ok next' →
    next'.config = set next.config

/-- What every option of a grammar does, it does just as well after an effect as before it. -/
def Commutes (grammar : List (Opt α)) (set : α → α) : Prop :=
  ∀ opt ∈ grammar, ∀ value other, opt.effect value = .ok other →
    ∀ config, other (set config) = set (other config)

/-- The effect of an option with a value is what its value was read as. -/
theorem Opt.effect_eq_ok {opt : Opt α} {placeholder : String} {negative : Bool}
    {read : String → Except Refusal (α → α)} {value : Option String} {set : α → α}
    (hkind : opt.kind = .value placeholder negative read) (h : opt.effect value = .ok set) :
    ∃ text, value = some text ∧ read text = .ok set := by
  unfold Opt.effect at h
  rw [hkind] at h
  cases value with
  | none => cases h
  | some text =>
    dsimp only at h
    split at h
    · next hread =>
      cases h
      exact ⟨text, rfl, hread⟩
    · cases h
    · cases h
    · cases h

namespace State.Apart

variable {grammar : List (Opt α)} {set : α → α} {state state' next next' : State α} {opt : Opt α}

theorem of_settled (hpending : state.pending = none) (hpending' : state'.pending = none)
    (htrailing : state'.trailing = state.trailing) (hconfig : state'.config = set state.config) :
    Apart grammar set state state' where
  trailing := htrailing
  awaited := by rw [awaited?, awaited?, hpending, hpending']
  waits opt hopt := by
    rw [awaited?, hpending] at hopt
    cases hopt
  settle last last' hlast hlast' := by
    rw [settle_of_settled hpending] at hlast
    rw [settle_of_settled hpending'] at hlast'
    cases hlast
    cases hlast'
    exact hconfig

theorem trail (hapart : Apart grammar set state state') :
    Apart grammar set { state with trailing := true } { state' with trailing := true } := by
  refine ⟨rfl, hapart.awaited, hapart.waits, fun last last' hlast hlast' => ?_⟩
  rw [settle_trail] at hlast hlast'
  obtain ⟨next, hnext, rfl⟩ := map_eq_ok.1 hlast
  obtain ⟨next', hnext', rfl⟩ := map_eq_ok.1 hlast'
  exact hapart.settle next next' hnext hnext'

section Step

variable (hcommutes : Commutes grammar set)
include hcommutes

theorem give_config (hopt : opt ∈ grammar) {value : Option String}
    (hconfig : state'.config = set state.config) (h : state.give opt value = .ok next)
    (h' : state'.give opt value = .ok next') : next'.config = set next.config := by
  obtain ⟨other, heffect, rfl⟩ := give_eq_ok h
  obtain ⟨other', heffect', rfl⟩ := give_eq_ok h'
  rw [heffect] at heffect'
  cases heffect'
  show other state'.config = set (other state.config)
  rw [hconfig, hcommutes opt hopt value other heffect]

theorem take (hopt : opt ∈ grammar) (hapart : Apart grammar set state state')
    {value : Option String} {long : Bool} (h : state.take opt value long = .ok next)
    (h' : state'.take opt value long = .ok next') : Apart grammar set next next' := by
  obtain ⟨settled, hsettle, hgive⟩ := take_eq_ok h
  obtain ⟨settled', hsettle', hgive'⟩ := take_eq_ok h'
  obtain ⟨hpending, htrailing⟩ := settle_eq_ok hsettle
  obtain ⟨hpending', htrailing'⟩ := settle_eq_ok hsettle'
  have hconfig :=
    give_config hcommutes hopt (hapart.settle _ _ hsettle hsettle') hgive hgive'
  obtain ⟨_, -, rfl⟩ := give_eq_ok hgive
  obtain ⟨_, -, rfl⟩ := give_eq_ok hgive'
  refine of_settled hpending hpending' ?_ hconfig
  exact htrailing'.trans (hapart.trailing.trans htrailing.symm)

theorem takePlain (hapart : Apart grammar set state state') {argument : String}
    (h : state.takePlain argument = .ok next) (h' : state'.takePlain argument = .ok next') :
    Apart grammar set next next' := by
  obtain ⟨opt, hawaited, rfl⟩ := takePlain_eq_ok h
  obtain ⟨opt', hawaited', rfl⟩ := takePlain_eq_ok h'
  rw [hapart.awaited, hawaited] at hawaited'
  cases hawaited'
  obtain ⟨hopt, -, hconfig⟩ := hapart.waits opt hawaited
  refine ⟨hapart.trailing, rfl, nofun, fun last last' hlast hlast' => ?_⟩
  have hconfig' : ({ state' with pending := none } : State α).config =
      set ({ state with pending := none } : State α).config := hconfig
  exact give_config hcommutes hopt hconfig' hlast hlast'

omit hcommutes in
/-- The value that both readings await from here on is missing in both, if it is settled. -/
theorem await (hopt : opt ∈ grammar) (htakes : opt.takesValue = true)
    (hapart : Apart grammar set state state') (h : state.await opt = .ok next)
    (h' : state'.await opt = .ok next') : Apart grammar set next next' := by
  obtain ⟨settled, hsettle, rfl⟩ := await_eq_ok h
  obtain ⟨settled', hsettle', rfl⟩ := await_eq_ok h'
  have hconfig := hapart.settle _ _ hsettle hsettle'
  refine ⟨?_, rfl, ?_, fun last last' hlast _ => ?_⟩
  · exact (settle_eq_ok hsettle').2.trans (hapart.trailing.trans (settle_eq_ok hsettle).2.symm)
  · intro other hother
    have hsame : some opt = some other := hother
    cases hsame
    exact ⟨hopt, htakes, hconfig⟩
  · rw [settle_of_awaited rfl, give, if_pos ⟨htakes, rfl⟩] at hlast
    cases hlast

theorem takeLong (hapart : Apart grammar set state state') {name : List Char}
    {value : Option (List Char)} (h : state.takeLong grammar name value = .ok next)
    (h' : state'.takeLong grammar name value = .ok next') : Apart grammar set next next' := by
  unfold State.takeLong at h h'
  split at h
  · cases h
  · next opt hfind =>
    have hopt : opt ∈ grammar := List.mem_of_find?_eq_some hfind
    simp only [hfind] at h'
    cases htakes : opt.takesValue with
    | false =>
      cases value with
      | none =>
        simp only [htakes] at h h'
        exact hapart.take hcommutes hopt h h'
      | some value =>
        simp only [htakes] at h
        cases h
    | true =>
      cases value with
      | none =>
        simp only [htakes] at h h'
        exact hapart.await hopt htakes h h'
      | some value =>
        simp only [htakes] at h h'
        exact hapart.take hcommutes hopt h h'

theorem takeLetters {letters : List Char} (hapart : Apart grammar set state state')
    (h : state.takeLetters grammar letters = .ok next)
    (h' : state'.takeLetters grammar letters = .ok next') : Apart grammar set next next' := by
  induction letters generalizing state state' with
  | nil =>
    cases h
    cases h'
    exact hapart
  | cons c rest ih =>
    unfold State.takeLetters at h h'
    split at h
    · cases h
    · next opt hfind =>
      have hopt : opt ∈ grammar := List.mem_of_find?_eq_some hfind
      simp only [hfind] at h'
      split at h
      · next htakes =>
        rw [if_pos htakes] at h'
        split at h
        · next hrest =>
          rw [if_pos hrest] at h'
          exact hapart.await hopt htakes h h'
        · next hrest =>
          rw [if_neg hrest] at h'
          exact hapart.take hcommutes hopt h h'
      · next htakes =>
        rw [if_neg htakes] at h'
        obtain ⟨taken, htaken, hrest⟩ := bind_eq_ok.1 h
        obtain ⟨taken', htaken', hrest'⟩ := bind_eq_ok.1 h'
        exact ih (hapart.take hcommutes hopt htaken htaken') hrest hrest'

theorem read (hapart : Apart grammar set state state') {argument : String}
    (h : state.read grammar argument = .ok next) (h' : state'.read grammar argument = .ok next') :
    Apart grammar set next next' := by
  unfold State.read at h h'
  -- which reader an argument goes to hangs on the argument, and on what is awaited
  rw [hapart.trailing, takesNegative_eq, hapart.awaited, ← takesNegative_eq] at h'
  split at h
  · cases h
  next htrailing =>
  rw [if_neg htrailing] at h'
  split at h
  · next hlist =>
    simp only [hlist] at h'
    cases h
    cases h'
    exact hapart.trail
  · next rest hne hlist =>
    simp only [hlist] at h'
    exact hapart.takeLong hcommutes h h'
  · next c rest hne hlist =>
    simp only [hlist] at h'
    split at h
    · next hnegative =>
      rw [if_pos hnegative] at h'
      exact hapart.takePlain hcommutes h h'
    · next hnegative =>
      rw [if_neg hnegative] at h'
      exact hapart.takeLetters hcommutes h h'
  · next hdashes hlong hletters =>
    split at h'
    · next hlist => exact (hdashes hlist).elim
    · next rest _ hlist => exact (hlong rest hlist).elim
    · next c rest _ _ hlist => exact (hletters c rest hlist).elim
    · exact hapart.takePlain hcommutes h h'

theorem foldlM_read {arguments : List String} (hapart : Apart grammar set state state')
    (h : arguments.foldlM (State.read grammar) state = .ok next)
    (h' : arguments.foldlM (State.read grammar) state' = .ok next') :
    Apart grammar set next next' := by
  induction arguments generalizing state state' with
  | nil =>
    cases h
    cases h'
    exact hapart
  | cons argument arguments ih =>
    rw [List.foldlM_cons] at h h'
    obtain ⟨between, hread, hrest⟩ := bind_eq_ok.1 h
    obtain ⟨between', hread', hrest'⟩ := bind_eq_ok.1 h'
    exact ih (hapart.read hcommutes hread hread') hrest hrest'

end Step

/-- A reading goes beside itself, with no effect. -/
theorem diagonal {arguments : List String} {usual : α}
    (h : arguments.foldlM (State.read grammar) ⟨[], usual, none, false⟩ = .ok state) :
    Apart grammar id state state :=
  foldlM_read (fun _ _ _ _ _ _ => rfl) (of_settled rfl rfl rfl rfl) h h

/-- Behind a flag a reading has its effect besides. What stands in front of the flag is settled in
one reading and still to be settled in the other. -/
theorem of_flag {settled : State α} (hkind : opt.kind = .flag set)
    (htakes : ∀ opt, state.awaited? = some opt → opt.takesValue = true)
    (hsettle : state.settle = .ok settled) (hgive : settled.give opt none = .ok state') :
    Apart grammar set state state' := by
  obtain ⟨hpending, htrailing⟩ := settle_eq_ok hsettle
  have hawaited : state.awaited? = none := awaited?_of_settle hsettle htakes
  obtain ⟨other, heffect, hstate'⟩ := give_eq_ok hgive
  have hpending' : state'.pending = none := by rw [hstate', hpending]
  refine ⟨?_, ?_, fun opt hopt => ?_, fun last last' hlast hlast' => ?_⟩
  · rw [hstate', htrailing]
  · rw [hawaited, awaited?, hpending']
  · rw [hawaited] at hopt
    cases hopt
  · rw [hsettle] at hlast
    rw [settle_of_settled hpending'] at hlast'
    cases hlast
    cases hlast'
    simp only [Opt.effect, hkind] at heffect
    cases heffect
    rw [hstate']

end State.Apart

/-! ## Flags -/

section Flag

variable {grammar : List (Opt α)} {opt : Opt α} {set : α → α} {state next : State α}
  {flag : String} (hlisted : opt.Listed grammar) (hkind : opt.kind = .flag set)
  (hletter : ∀ c, opt.letter = some c → c.isDigit = false) (hspells : opt.Spells none [flag])
include hlisted hkind hletter hspells

/-- A flag settles what stands in front of it and has its effect at once. -/
theorem read_flag_eq_ok (h : state.read grammar flag = .ok next) :
    ∃ settled, state.settle = .ok settled ∧ settled.give opt none = .ok next := by
  have htakes : opt.takesValue = false := by rw [Opt.takesValue, hkind]
  have htrailing : state.trailing = false := by
    by_contra htrailing
    rw [State.read, if_pos (by simpa using htrailing)] at h
    cases h
  cases hspells with
  | flag =>
    rw [read_name hlisted htrailing, State.takeLong, hlisted.by_name] at h
    simp only [htakes] at h
    exact State.take_eq_ok h
  | letter c hc =>
    have hlist : ("-".push c).toList = ['-', c] := by simp
    have hdash : c ≠ '-' := by
      rintro rfl
      exact hlisted.letter_ne hc
    have hnumber : isNumber [c] = false := by simp [isNumber, hletter c hc]
    have hread : state.read grammar ("-".push c) = state.takeLetters grammar [c] := by
      simp [State.read, htrailing, hlist, hdash, hnumber]
    rw [hread] at h
    simp only [State.takeLetters, hlisted.by_letter c hc, htakes] at h
    obtain ⟨taken, htake, hnext⟩ := bind_eq_ok.1 h
    cases hnext
    exact State.take_eq_ok htake

/-- A command line that is read with a flag at some place in it, and without, is read as the same
configuration but for what the flag sets. -/
theorem read_with_flag (hcommutes : Commutes grammar set) {before after : List String}
    {usual config config' : α} (h : read grammar usual (before ++ after) = .ok config)
    (h' : read grammar usual (before ++ flag :: after) = .ok config') : config' = set config := by
  obtain ⟨last, hread, h⟩ := bind_eq_ok.1 h
  obtain ⟨last', hread', h'⟩ := bind_eq_ok.1 h'
  obtain ⟨done, hsettle, hdone⟩ := bind_eq_ok.1 h
  obtain ⟨done', hsettle', hdone'⟩ := bind_eq_ok.1 h'
  cases hdone
  cases hdone'
  rw [List.foldlM_append] at hread hread'
  obtain ⟨state, hbefore, hafter⟩ := bind_eq_ok.1 hread
  obtain ⟨state', hbefore', hafter'⟩ := bind_eq_ok.1 hread'
  rw [hbefore] at hbefore'
  cases hbefore'
  rw [List.foldlM_cons] at hafter'
  obtain ⟨taken, hflag, hrest⟩ := bind_eq_ok.1 hafter'
  obtain ⟨settled, hsettled, hgive⟩ := read_flag_eq_ok hlisted hkind hletter hspells hflag
  have hapart : State.Apart grammar set state taken :=
    .of_flag hkind (fun opt hopt => ((State.Apart.diagonal hbefore).waits opt hopt).2.1)
      hsettled hgive
  exact (hapart.foldlM_read hcommutes hafter hrest).settle _ _ hsettle hsettle'

end Flag

end Countoff.CommandLine
