import CardService.Config.Validity
import CardService.Proofs.Outcome
import CardService.Proofs.Text.Lines
import CardService.Proofs.Text.Trimming
import CardService.Proofs.Text.Utf8Order

/-!
# CardService — valid configurations

What a configuration must be like to be valid (`ClientConfig.Valid`), said without the checks that
find out. A section is checked by itself, so that each check has a lemma of its own.

Main results:

* `ClientConfig.validate_eq_ok_iff` — the checks let through what is valid and nothing else.
* `AuditConfig.openTarget_of_file` — a file that is opened is opened at the path that was checked.
* `ClientConfig.validate_exact` — both, for a configuration as a whole.
-/

namespace CardService

open Text (IsPart Trimmed trimmed_iff)

/-! ## Paths -/

/-- A text that can be the path of a file. Parts that stand for a folder itself, or for nothing, need
no mention: they are short. -/
structure PathText (path : String) : Prop where
  nonempty : path ≠ ""
  short : path.utf8ByteSize ≤ 4096
  parts : ∀ part, IsPart '/' path.toList part → (String.ofList part).utf8ByteSize ≤ 255

theorem pathProblem?_eq_none_iff {path : String} :
    pathProblem? path = none ↔ path.utf8ByteSize ≤ 4096 ∧
      ∀ part, IsPart '/' path.toList part → (String.ofList part).utf8ByteSize ≤ 255 := by
  -- the parts that are looked at are all parts of the path, and their lengths count bytes
  have hparts : (pathParts path).any (maxPathPartBytes < ·.length) = false ↔
      ∀ part, IsPart '/' path.toList part → (String.ofList part).utf8ByteSize ≤ 255 := by
    simp only [pathParts, List.any_map, List.any_eq_false, Function.comp_apply, decide_eq_true_eq,
      Nat.not_lt, Utf8.length_encode, Text.mem_splitBy_iff]
    rfl
  rw [pathProblem?, ← hparts]
  by_cases hshort : path.utf8ByteSize ≤ maxPathBytes
  · rw [if_neg (Nat.not_lt.mpr hshort)]
    cases (pathParts path).any (maxPathPartBytes < ·.length) with
    | false => exact ⟨fun _ => ⟨hshort, rfl⟩, fun _ => rfl⟩
    | true => exact ⟨nofun, nofun⟩
  · rw [if_pos (Nat.not_le.mp hshort)]
    exact ⟨nofun, fun h => absurd h.1 hshort⟩

theorem AuditConfig.validatePath_eq_ok_iff {path : String} :
    AuditConfig.validatePath path = .ok () ↔ ∃ inner, Trimmed path inner ∧ PathText inner := by
  -- there is one text that is left of a path without the blanks around it
  have htrim : (∃ inner, Trimmed path inner ∧ PathText inner) ↔ PathText (Text.trim path) := by
    simp only [trimmed_iff, exists_eq_left']
  rw [htrim, AuditConfig.validatePath]
  generalize Text.trim path = inner
  by_cases hempty : inner = ""
  · rw [if_pos (String.isEmpty_iff.mpr hempty)]
    exact ⟨nofun, fun h => absurd hempty h.nonempty⟩
  · rw [if_neg (mt String.isEmpty_iff.mp hempty)]
    cases hproblem : pathProblem? inner with
    | none =>
      obtain ⟨hshort, hparts⟩ := pathProblem?_eq_none_iff.mp hproblem
      exact ⟨fun _ => ⟨hempty, hshort, hparts⟩, fun _ => rfl⟩
    | some problem =>
      refine ⟨nofun, fun h => ?_⟩
      rw [pathProblem?_eq_none_iff.mpr ⟨h.short, h.parts⟩] at hproblem
      cases hproblem

/-! ## Sections -/

/-- An address that the backend may be reached at: that of a secure place, or, where this is allowed,
of any other on the web. -/
def ApiConfig.Reaches (config : ApiConfig) (address : String) : Prop :=
  Url.schemeOf address = .ok "https" ∨
    Url.schemeOf address = .ok "http" ∧ config.allowHttp = true

theorem ApiConfig.validate_eq_ok_iff {config : ApiConfig} :
    config.validate = .ok () ↔ ∀ endpoint, config.endpoint = some endpoint →
      ∃ address, Trimmed endpoint address ∧ config.Reaches address := by
  simp only [trimmed_iff, exists_eq_left']
  rw [ApiConfig.validate]
  cases config.endpoint with
  | none => exact ⟨fun _ => nofun, fun _ => rfl⟩
  | some endpoint =>
    simp only [Option.some.injEq, forall_eq']
    rw [ApiConfig.Reaches]
    generalize Url.schemeOf (Text.trim endpoint) = scheme
    -- no URL at all, a secure one, a plain one, and one of any other scheme
    split
    · exact ⟨nofun, fun h => h.elim nofun fun h => nomatch h.1⟩
    · exact ⟨fun _ => .inl rfl, fun _ => rfl⟩
    · cases config.allowHttp <;> decide
    · next hsecure hplain =>
      refine ⟨nofun, fun h => ?_⟩
      rcases h with h | ⟨h, -⟩
      · exact absurd (Except.ok.inj h) hsecure
      · exact absurd (Except.ok.inj h) hplain

theorem ListConfig.validate_eq_ok_iff {config : ListConfig} :
    config.validate = .ok () ↔ 1 ≤ config.defaultLimit.toNat ∧ config.defaultLimit.toNat ≤ 100 := by
  rw [ListConfig.validate]
  by_cases hbounds : 1 ≤ config.defaultLimit ∧ config.defaultLimit ≤ maxPageLimit
  · rw [if_pos hbounds]
    exact ⟨fun _ => hbounds, fun _ => rfl⟩
  · rw [if_neg hbounds]
    exact ⟨nofun, fun h => absurd h hbounds⟩

theorem AuditConfig.validate_eq_ok_iff {config : AuditConfig} :
    config.validate = .ok () ↔
      (∀ path, config.path = some path → ∃ inner, Trimmed path inner ∧ PathText inner) ∧
      (config.mode = .file → config.path ≠ none) := by
  rw [AuditConfig.validate]
  cases config.path with
  | none => simp
  | some path => simp [validatePath_eq_ok_iff]

/-! ## Whole configurations -/

/-- A configuration that can be used: the backend may be reached at its endpoint, the backend sends
pages of its length, and its audit file, if there is one, has a path. -/
structure ClientConfig.Valid (config : ClientConfig) : Prop where
  endpoint : ∀ endpoint, config.api.endpoint = some endpoint →
    ∃ address, Trimmed endpoint address ∧ config.api.Reaches address
  limit : 1 ≤ config.list.defaultLimit.toNat ∧ config.list.defaultLimit.toNat ≤ 100
  path : ∀ path, config.audit.path = some path → ∃ inner, Trimmed path inner ∧ PathText inner
  pathGiven : config.audit.mode = .file → config.audit.path ≠ none

theorem ClientConfig.validate_eq_ok_iff {config : ClientConfig} :
    config.validate = .ok () ↔ config.Valid := by
  have hsections : config.validate = .ok () ↔
      config.api.validate = .ok () ∧ config.list.validate = .ok () ∧ config.audit.validate = .ok () := by
    simp only [ClientConfig.validate, Except.bind_eq_ok_iff, Unique.exists_iff]
  rw [hsections, ApiConfig.validate_eq_ok_iff, ListConfig.validate_eq_ok_iff,
    AuditConfig.validate_eq_ok_iff]
  exact ⟨fun ⟨hendpoint, hlimit, hpath, hgiven⟩ => ⟨hendpoint, hlimit, hpath, hgiven⟩,
    fun ⟨hendpoint, hlimit, hpath, hgiven⟩ => ⟨hendpoint, hlimit, hpath, hgiven⟩⟩

/-! ## Audit events -/

section Opening

variable {World : Type} {config : AuditConfig}

theorem AuditConfig.openTarget_of_file {path inner : String} (hmode : config.mode = .file)
    (hpath : config.path = some path) (hinner : Trimmed path inner)
    (opens : String → StateM World Bool) (world : World) :
    config.openTarget opens world =
      (if (opens inner world).1 then .ok (.file inner) else .error .unreachable,
        (opens inner world).2) := by
  have htarget : config.target = .ok (.file inner) := by
    rw [AuditConfig.target, hmode, hpath, ← trimmed_iff.mp hinner]
  rw [AuditConfig.openTarget, htarget]
  rfl

/-- Where events do not go to a file, nothing is opened. -/
theorem AuditConfig.openTarget_of_noFile (hmode : config.mode ≠ .file)
    (opens : String → StateM World Bool) (world : World) :
    ∃ target, config.openTarget opens world = (.ok target, world) := by
  rw [AuditConfig.openTarget, AuditConfig.target]
  cases hcase : config.mode with
  | stderr => exact ⟨.stderr, rfl⟩
  | none => exact ⟨.nowhere, rfl⟩
  | file => exact absurd hcase hmode

end Opening

/-- A configuration passes its checks exactly if it is valid. Where it has passed them, opening what
audit events are written to finds nothing invalid any more, and what is opened in file mode, once, is
the path that was checked. -/
theorem ClientConfig.validate_exact (config : ClientConfig) :
    (config.validate = .ok () ↔ config.Valid) ∧
    (config.validate = .ok () → ∀ (World : Type) (opens : String → StateM World Bool) (world : World),
      (∀ problem, (config.audit.openTarget opens world).1 ≠ .error (.invalid problem)) ∧
      (config.audit.mode = .file → ∃ path inner, config.audit.path = some path ∧
        Trimmed path inner ∧ PathText inner ∧
        config.audit.openTarget opens world =
          (if (opens inner world).1 then .ok (.file inner) else .error .unreachable,
            (opens inner world).2)) ∧
      (config.audit.mode ≠ .file →
        ∃ target, config.audit.openTarget opens world = (.ok target, world))) := by
  refine ⟨validate_eq_ok_iff, fun hvalid World opens world => ?_⟩
  replace hvalid := validate_eq_ok_iff.mp hvalid
  -- what is opened is trimmed once more, from the same path
  have hfile : config.audit.mode = .file → ∃ path inner, config.audit.path = some path ∧
      Trimmed path inner ∧ PathText inner ∧
      config.audit.openTarget opens world =
        (if (opens inner world).1 then .ok (.file inner) else .error .unreachable,
          (opens inner world).2) := by
    intro hmode
    obtain ⟨path, hpath⟩ := Option.ne_none_iff_exists'.mp (hvalid.pathGiven hmode)
    obtain ⟨inner, hinner, htext⟩ := hvalid.path path hpath
    exact ⟨path, inner, hpath, hinner, htext,
      AuditConfig.openTarget_of_file hmode hpath hinner opens world⟩
  refine ⟨fun problem hinvalid => ?_, hfile,
    fun hmode => AuditConfig.openTarget_of_noFile hmode opens world⟩
  -- in file mode only the opening can fail, and in the others nothing can
  by_cases hmode : config.audit.mode = .file
  · obtain ⟨path, inner, -, -, -, hopen⟩ := hfile hmode
    rw [hopen] at hinvalid
    dsimp only at hinvalid
    split at hinvalid <;> cases hinvalid
  · obtain ⟨target, hopen⟩ := AuditConfig.openTarget_of_noFile hmode opens world
    rw [hopen] at hinvalid
    cases hinvalid

/-- The configuration of a client whose backend runs on the same machine. -/
def nearby : ClientConfig where
  api := { endpoint := some " http://[::1]/graphql\n", allowHttp := true }
  list := { defaultLimit := 100 }
  audit := { mode := .file, path := some "\tevents/calls.jsonl " }

/-- It is valid, and its audit file, the only one opened, is where it says without the blanks. -/
theorem ClientConfig.validate_exact_nearby :
    nearby.validate = .ok () ∧ nearby.Valid ∧
      nearby.audit.openTarget (fun path opened => (true, opened ++ [path])) [] =
        (.ok (.file "events/calls.jsonl"), ["events/calls.jsonl"]) := by
  have hvalid : nearby.validate = .ok () := by decide +kernel
  obtain ⟨hiff, hopening⟩ := ClientConfig.validate_exact nearby
  obtain ⟨-, hfile, -⟩ :=
    hopening hvalid (List String) (fun path opened => (true, opened ++ [path])) []
  obtain ⟨path, inner, hpath, hinner, -, hopen⟩ := hfile rfl
  cases hpath
  have htrim : Text.trim "\tevents/calls.jsonl " = "events/calls.jsonl" := by decide
  rw [trimmed_iff, htrim] at hinner
  subst hinner
  exact ⟨hvalid, hiff.mp hvalid, hopen⟩

end CardService
