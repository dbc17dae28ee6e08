import Fanout.Config.Load

/-!
# When a cluster file can be had

Either the file is located, read, parsed and found valid, and loading it gives what it says, or one
of these fails, and so does loading.
-/
namespace Fanout

/-! ## Errors told in other words -/

theorem mapError_ok {α ε ε' : Type} (f : ε → ε') (a : α) :
    (Except.ok a : Except ε α).mapError f = .ok a :=
  rfl

theorem mapError_error {α ε ε' : Type} (f : ε → ε') (e : ε) :
    (Except.error e : Except ε α).mapError f = .error (f e) :=
  rfl

namespace Config

variable {files : FileTree} {env : Environment} {given : Option String} {config : Config}

/-! ## Loading -/

/-- The cluster file is there and valid, and `config` is what it says. -/
inductive Loads (files : FileTree) (env : Environment) (given : Option String) (config : Config) :
    Prop where
  | intro {path text : String} (hpath : (Path.configFile env given).1 = .ok path)
      (htext : files.readText env.workDir path = .ok text) (hconfig : ofText text = .ok config)
      (hvalid : config.invalid? = none) : Loads files env given config

/-- Why there is no configuration. -/
inductive Unloadable (files : FileTree) (env : Environment) (given : Option String) : Prop where
  | notLocated {e : Failure} (h : (Path.configFile env given).1 = .error e) :
      Unloadable files env given
  | notRead {path : String} {e : OsError} (hpath : (Path.configFile env given).1 = .ok path)
      (h : files.readText env.workDir path = .error e) : Unloadable files env given
  | notParsed {path text : String} {e : Toml.Error}
      (hpath : (Path.configFile env given).1 = .ok path)
      (htext : files.readText env.workDir path = .ok text) (h : ofText text = .error e) :
      Unloadable files env given
  | invalid {path text : String} {config : Config} {e : LayoutError}
      (hpath : (Path.configFile env given).1 = .ok path)
      (htext : files.readText env.workDir path = .ok text) (hconfig : ofText text = .ok config)
      (h : config.invalid? = some e) : Unloadable files env given

theorem exists_loads_or_unloadable (files : FileTree) (env : Environment) (given : Option String) :
    (∃ config, Loads files env given config) ∨ Unloadable files env given := by
  cases hpath : (Path.configFile env given).1 with
  | error e => exact Or.inr (.notLocated hpath)
  | ok path =>
      cases htext : files.readText env.workDir path with
      | error e => exact Or.inr (.notRead hpath htext)
      | ok text =>
          cases hconfig : ofText text with
          | error e => exact Or.inr (.notParsed hpath htext hconfig)
          | ok config =>
              cases hvalid : config.invalid? with
              | some e => exact Or.inr (.invalid hpath htext hconfig hvalid)
              | none => exact Or.inl ⟨config, .intro hpath htext hconfig hvalid⟩

theorem readFile_of_loads {path text : String} (htext : files.readText env.workDir path = .ok text)
    (hconfig : ofText text = .ok config) (hvalid : config.invalid? = none) :
    readFile files env path = .ok config := by
  simp only [readFile, htext, hconfig, hvalid, mapError_ok, bind, Except.bind]
  rfl

theorem load_of_loads (h : Loads files env given config) :
    (load files env given).1 = .ok config := by
  obtain ⟨hpath, htext, hconfig, hvalid⟩ := h
  simp only [load, hpath, readFile_of_loads htext hconfig hvalid]

theorem exists_load_eq_error (h : Unloadable files env given) :
    ∃ e, (load files env given).1 = .error e := by
  cases h with
  | notLocated h => simp only [load, h]; exact ⟨_, rfl⟩
  | notRead hpath h =>
      simp only [load, hpath, readFile, h, mapError_error, bind, Except.bind]
      exact ⟨_, rfl⟩
  | notParsed hpath htext h =>
      simp only [load, hpath, readFile, htext, h, mapError_ok, mapError_error, bind, Except.bind]
      exact ⟨_, rfl⟩
  | invalid hpath htext hconfig h =>
      simp only [load, hpath, readFile, htext, hconfig, h, mapError_ok, bind, Except.bind]
      exact ⟨_, rfl⟩

/-! ## What loading writes to the log -/

theorem topic_of_mem_configDir {r : Log.Record} (h : r ∈ (Path.configDir env).2) :
    r.topic = Log.Topic.paths := by
  simp only [Path.configDir] at h
  split at h <;> simp at h <;> subst h <;> rfl

theorem topic_of_mem_configFile {r : Log.Record} (h : r ∈ (Path.configFile env given).2) :
    r.topic = Log.Topic.paths := by
  simp only [Path.configFile] at h
  split at h
  · cases h
  · simp only [List.mem_singleton] at h
    subst h
    rfl
  · exact topic_of_mem_configDir h

theorem topic_of_mem_load {r : Log.Record} (h : r ∈ (load files env given).2) :
    r.topic = Log.Topic.paths ∨ r.topic = Log.Topic.config := by
  simp only [load] at h
  split at h
  · exact Or.inl (topic_of_mem_configFile h)
  · split at h
    · exact Or.inl (topic_of_mem_configFile h)
    · rcases List.mem_append.mp h with h | h
      · exact Or.inl (topic_of_mem_configFile h)
      · simp only [List.mem_singleton] at h
        subst h
        exact Or.inr rfl

end Config

end Fanout
