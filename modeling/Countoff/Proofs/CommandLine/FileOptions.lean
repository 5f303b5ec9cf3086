import Countoff.CommandLine.FileOptions
import Countoff.Proofs.CommandLine.Flags
import Mathlib.Data.List.Nodup

/-!
# Command lines that name a configuration file

The path of the configuration file is read back in any spelling (`parse_of_config`), and each of the
two flags, wherever it is put, changes nothing but its own field (`parse_verbose`, `parse_dryRun`).
-/

namespace Countoff.CommandLine.FileOptions

theorem listed {opt : Opt FileOptions} (h : opt ∈ [configOption, verboseOption, dryRunOption]) :
    opt.Listed grammar := by
  simp only [List.mem_cons, List.not_mem_nil, or_false] at h
  obtain rfl | rfl | rfl := h
  · exact ⟨by decide, by decide, rfl, by decide, fun c hc => by cases hc; rfl⟩
  · exact ⟨by decide, by decide, rfl, by decide, fun c hc => by cases hc; rfl⟩
  · exact ⟨by decide, by decide, rfl, by decide, nofun⟩

theorem parse_of_config {config : String} {arguments : List String}
    (h : configOption.Spells (some config) arguments) :
    parse arguments = .ok ⟨config, false, false⟩ := by
  have hwritten : Written grammar
      [⟨configOption, some config, fun options => { options with config }⟩] (arguments ++ []) :=
    .cons (listed (by simp)) (.value rfl rfl) h .nil
  rw [List.append_nil] at hwritten
  rw [parse, read_written hwritten (List.nodup_singleton _)]
  rfl

/-! ## Flags -/

/-- An effect commutes with the options if it leaves alone what each of them sets. -/
theorem commutes {set : FileOptions → FileOptions}
    (hconfig : ∀ options config, set { options with config } = { set options with config })
    (hverbose : ∀ options,
      set { options with verbose := true } = { set options with verbose := true })
    (hdryRun : ∀ options,
      set { options with dryRun := true } = { set options with dryRun := true }) :
    Commutes grammar set := by
  intro opt hopt value other heffect options
  simp only [grammar, List.mem_cons, List.not_mem_nil, or_false] at hopt
  obtain rfl | rfl | rfl | rfl := hopt
  · obtain ⟨config, rfl, hread⟩ := Opt.effect_eq_ok rfl heffect
    cases hread
    exact (hconfig options config).symm
  · cases heffect
    exact (hverbose options).symm
  · cases heffect
    exact (hdryRun options).symm
  · cases heffect
    rfl

variable {before after : List String} {options changed : FileOptions}

theorem parse_dryRun (h : parse (before ++ after) = .ok options)
    (h' : parse (before ++ "--dry-run" :: after) = .ok changed) :
    changed = { options with dryRun := true } := by
  have hspells : dryRunOption.Spells none ["--dry-run"] := .flag
  have hcommutes : Commutes grammar fun options => { options with dryRun := true } :=
    commutes (fun _ _ => rfl) (fun _ => rfl) fun _ => rfl
  exact read_with_flag (listed (by simp)) rfl (fun _ hc => by cases hc) hspells hcommutes h h'

theorem parse_verbose {flag : String} (hspells : verboseOption.Spells none [flag])
    (h : parse (before ++ after) = .ok options)
    (h' : parse (before ++ flag :: after) = .ok changed) :
    changed = { options with verbose := true } := by
  have hcommutes : Commutes grammar fun options => { options with verbose := true } :=
    commutes (fun _ _ => rfl) (fun _ => rfl) fun _ => rfl
  exact read_with_flag (listed (by simp)) rfl (fun _ hc => by cases hc; rfl) hspells hcommutes h h'

end Countoff.CommandLine.FileOptions
