import SocketGateway.Cli.Run
import SocketGateway.Proofs.Documents
import SocketGateway.Proofs.Layers

/-!
# What goes over what

A setting is what the environment says about it; if that says nothing, what its entry in the file
with further variables says; if there is none, what the configuration file says; and otherwise what
it is by default. That holds for every setting by itself: what is said about others, in whatever
layer, has no part in it, unless its entry mentions their variables. Only the two numbers of the
heartbeat are checked together.
-/

namespace SocketGateway.Cli.Surroundings

open SocketGateway.Config

variable {s s' : Surroundings} {t t' : Settings} {tree : Value} {x : Setting}

/-! ## Layers -/

def fileTree (s : Surroundings) : Except Config.Error Value :=
  (match s.file with
    | some bytes => fileEntries bytes
    | none => .ok []).map Value.empty.setAll

def entries (s : Surroundings) : List DotEnv.Entry :=
  match s.dotEnv with
  | some text => DotEnv.read text
  | none => []

def valueOf? (s : Surroundings) (x : Setting) : Option (List DotEnv.Part) :=
  DotEnv.valueOf? s.entries x

/-- The variables where the entry for a setting stands: those of the environment, and those of the
entries above it. -/
def variablesAt (s : Surroundings) (x : Setting) : Environment :=
  (DotEnv.above s.entries x).foldl DotEnv.add s.env

def entrySaid? (s : Surroundings) (x : Setting) : Option Value :=
  (s.valueOf? x).map fun value =>
    (some .environment, Environment.nodeOf x.key (DotEnv.fill (s.variablesAt x) value))

def fileSaid? (s : Surroundings) (x : Setting) : Option Value :=
  match s.fileTree with
  | .ok tree => tree.said? x
  | .error _ => none

/-- **What is said about a setting**: by the environment, else by its entry in the file with further
variables, else by the configuration file. -/
def said? (s : Surroundings) (x : Setting) : Option Value :=
  ((s.env.said? x).or (s.entrySaid? x)).or (s.fileSaid? x)

def names (s : Surroundings) : List String := s.env.map (·.1) ++ s.entries.map (·.name)

/-- The sections of the configuration file are tables; variables whose names start as those of
settings do are those of settings, and no two of them are the same up to case. -/
structure IsOrderly (s : Surroundings) : Prop where
  tables : ∀ tree, s.fileTree = .ok tree → tree.HasTables
  known : ∀ name ∈ s.names, Environment.keyOf? name ≠ none →
    ∃ x, Environment.isOf x name = true
  single : ∀ name ∈ s.names, ∀ name' ∈ s.names, ∀ x,
    Environment.isOf x name = true → Environment.isOf x name' = true → name = name'
  distinct : (s.env.map (·.1)).Nodup

theorem allVariables_eq_foldl_add : s.allVariables = s.entries.foldl DotEnv.add s.env := by
  cases hdot : s.dotEnv with
  | none => simp [allVariables, entries, hdot]
  | some text => simp [allVariables, entries, hdot, DotEnv.extend]

theorem mem_names {v : String × String} (h : v ∈ s.allVariables) : v.1 ∈ s.names := by
  rw [allVariables_eq_foldl_add] at h
  exact DotEnv.mem_foldl_add h

theorem nodup_allVariables (h : s.IsOrderly) : (s.allVariables.map (·.1)).Nodup := by
  rw [allVariables_eq_foldl_add]
  exact DotEnv.distinct_foldl_add h.distinct

theorem IsOrderly.tidy (h : s.IsOrderly) : s.allVariables.IsTidy := by
  constructor
  · intro v hv
    exact h.known v.1 (mem_names hv)
  · have hnames : s.allVariables.Pairwise fun v v' => v.1 ≠ v'.1 :=
      List.pairwise_map.mp (nodup_allVariables h)
    refine hnames.imp_of_mem fun {v v'} hv hv' hne x hx => ?_
    rw [Bool.eq_false_iff]
    exact fun hx' => hne (h.single v.1 (mem_names hv) v'.1 (mem_names hv') x hx hx')

/-- The variables of the environment go over the entries of the file. -/
theorem said?_allVariables :
    s.allVariables.said? x = (s.env.said? x).or (s.entrySaid? x) := by
  rw [allVariables_eq_foldl_add, Environment.said?, DotEnv.textOf?_foldl_add, Option.map_or,
    Option.map_map]
  rfl

/-- The entry of a setting says the same wherever the variables that it mentions are the same. -/
theorem entrySaid?_congr (hvalue : s'.valueOf? x = s.valueOf? x)
    (hmentions : ∀ value ∈ s.valueOf? x, ∀ name, .mention name ∈ value →
      (s'.variablesAt x).lookup? name = (s.variablesAt x).lookup? name) :
    s'.entrySaid? x = s.entrySaid? x := by
  rw [entrySaid?, entrySaid?, hvalue]
  cases h : s.valueOf? x with
  | none => rfl
  | some value => rw [Option.map_some, Option.map_some, DotEnv.fill_congr (hmentions value h)]

/-! ## Loading -/

theorem validate_eq_ok_iff {h : Heartbeat} : h.validate = .ok () ↔
    0 < h.interval.toNat ∧ h.interval.toNat + h.timeout.toNat < UInt64.size := by
  have hzero : h.interval = 0 ↔ h.interval.toNat = 0 := UInt64.toNat_inj.symm
  unfold Heartbeat.validate
  split <;> rename_i hinterval <;> rw [hzero] at hinterval
  · simp [hinterval]
  · split
    · simp
      omega
    · simp
      omega

/-- Loading succeeds with exactly those settings that can be read from the layers, if the heartbeat
is one that a timer can keep. -/
theorem load_eq_ok_iff (h : s.IsOrderly) : Config.load s.file s.allVariables = .ok t ↔
    (∃ tree, s.fileTree = .ok tree) ∧ (∀ x : Setting, x.readFrom (s.said? x) = .ok (x.get t)) ∧
      0 < t.heartbeat.interval.toNat ∧
      t.heartbeat.interval.toNat + t.heartbeat.timeout.toNat < UInt64.size := by
  have hload : Config.load s.file s.allVariables = .ok t ↔ ∃ tree, s.fileTree = .ok tree ∧
      Settings.ofTree (tree.setAll s.allVariables.entries) = .ok t ∧
      t.heartbeat.validate = .ok () := by
    -- the file is read first, then the settings, and their heartbeat is checked last
    unfold Config.load fileTree
    cases s.file
    all_goals
      simp only [bind_eq_ok_iff, map_eq_ok_iff]
      constructor
      · rintro ⟨said, hsaid, _, hs, ⟨⟩, hbeat, ⟨⟩⟩
        exact ⟨_, ⟨said, hsaid, rfl⟩, hs, hbeat⟩
      · rintro ⟨_, ⟨said, hsaid, rfl⟩, hs, hbeat⟩
        exact ⟨said, hsaid, t, hs, (), hbeat, rfl⟩
  have hread : ∀ tree, s.fileTree = .ok tree →
      (Settings.ofTree (tree.setAll s.allVariables.entries) = .ok t ↔
        ∀ x : Setting, x.readFrom (s.said? x) = .ok (x.get t)) := by
    intro tree htree
    rw [ofTree_eq_ok_iff ((h.tables tree htree).setAll_entries h.tidy)]
    simp only [said?_setAll_entries h.tidy, said?_allVariables, said?, fileSaid?, htree]
  rw [hload]
  constructor
  · rintro ⟨tree, htree, hs, hbeat⟩
    exact ⟨⟨tree, htree⟩, (hread tree htree).mp hs, validate_eq_ok_iff.mp hbeat⟩
  · rintro ⟨⟨tree, htree⟩, hs, hbeat⟩
    exact ⟨tree, htree, (hread tree htree).mpr hs, validate_eq_ok_iff.mpr hbeat⟩

/-! ## The main result -/

/-- **What goes over what**, for any configuration file or none, any further variables and any
environment, as long as they are orderly.

* Loading succeeds with exactly the settings that can be read, each for itself, from what is said
  about it by the environment, else by its entry in the file with further variables, else by the
  configuration file, and otherwise by default; their heartbeat has an interval, and interval and
  timeout together fit into 64 bits.
* A file says about a setting what stands there in its section, unless another of its keys spells a
  path into that section.
* A setting depends on nothing else: it is the same in other surroundings that say the same about
  it, whatever they say about other settings, as long as the variables that its entry mentions have
  the same texts where it stands.
* An interval of zero, and one that is too long together with the timeout, are refused wherever
  the two of them come from. -/
theorem settings_by_layers (h : s.IsOrderly) :
    (∀ t, Config.load s.file s.allVariables = .ok t ↔
      (∃ tree, s.fileTree = .ok tree) ∧ (∀ x : Setting, x.readFrom (s.said? x) = .ok (x.get t)) ∧
        0 < t.heartbeat.interval.toNat ∧
        t.heartbeat.interval.toNat + t.heartbeat.timeout.toNat < UInt64.size) ∧
    (∀ bytes ms x, s.file = some bytes → Toml.parse? (fileText bytes) = some ms →
      (∀ e ∈ ms, e.1 ≠ x.part → (Step.path e.1).head? ≠ some (.key x.part)) →
      s.fileSaid? x = (Toml.entry? ms x).map placed) ∧
    (∀ t (s' : Surroundings) t', Config.load s.file s.allVariables = .ok t → s'.IsOrderly →
      Config.load s'.file s'.allVariables = .ok t' →
      ∀ x : Setting, s'.env.said? x = s.env.said? x → s'.valueOf? x = s.valueOf? x →
        (∀ value ∈ s.valueOf? x, ∀ name, .mention name ∈ value →
          (s'.variablesAt x).lookup? name = (s.variablesAt x).lookup? name) →
        s'.fileSaid? x = s.fileSaid? x → x.get t' = x.get t) ∧
    (∀ interval timeout : UInt64, Setting.interval.readFrom (s.said? .interval) = .ok interval →
      Setting.timeout.readFrom (s.said? .timeout) = .ok timeout →
      interval.toNat = 0 ∨ UInt64.size ≤ interval.toNat + timeout.toNat →
      ∃ e, Config.load s.file s.allVariables = .error e) := by
  refine ⟨fun t => load_eq_ok_iff h, ?_, ?_, ?_⟩
  · intro bytes ms x hfile hparse hother
    have htree : s.fileTree = .ok (Value.empty.setAll (membersOfToml ms)) := by
      simp [fileTree, hfile, fileEntries, hparse, Except.map]
    rw [fileSaid?, htree]
    exact said?_of_parse? hparse hother
  · intro t s' t' hload h' hload' x henv hvalue hmentions hfile
    obtain ⟨-, hread, -⟩ := (load_eq_ok_iff h).mp hload
    obtain ⟨-, hread', -⟩ := (load_eq_ok_iff h').mp hload'
    have hsame : s'.said? x = s.said? x := by
      rw [said?, henv, entrySaid?_congr hvalue hmentions, hfile, said?]
    have hboth := (hread' x).symm.trans (hsame ▸ hread x)
    exact Except.ok.inj hboth
  · intro interval timeout hinterval htimeout hbad
    cases hload : Config.load s.file s.allVariables with
    | error e => exact ⟨e, rfl⟩
    | ok t =>
        obtain ⟨-, hread, hpositive, hfits⟩ := (load_eq_ok_iff h).mp hload
        have hi : t.heartbeat.interval = interval :=
          Except.ok.inj ((hread .interval).symm.trans hinterval)
        have ht : t.heartbeat.timeout = timeout :=
          Except.ok.inj ((hread .timeout).symm.trans htimeout)
        rw [hi] at hpositive hfits
        rw [ht] at hfits
        omega

/-! ### Orderly surroundings -/

/-- Surroundings are orderly if the few sections and names that there are pass the checks; `xs` are
the settings that variables are of. -/
theorem isOrderly_of_checks {names : List String} (xs : List Setting)
    (htables : ∀ part ∈ ["server", "gateway", "heartbeat", "logging"],
      (s.fileTree.toOption.bind (·.member? part)).all Value.isTable = true)
    (hnames : s.names = names)
    (hknown : ∀ name ∈ names, Environment.keyOf? name ≠ none →
      ∃ x ∈ xs, Environment.isOf x name = true)
    (hsingle : ∀ name ∈ names, ∀ name' ∈ names,
      Decimal.lower name.toList = Decimal.lower name'.toList → name = name')
    (hdistinct : (s.env.map (·.1)).Nodup) : s.IsOrderly := by
  subst hnames
  refine ⟨?_, ?_, ?_, hdistinct⟩
  · intro tree htree x v hv
    have hpart : x.part ∈ ["server", "gateway", "heartbeat", "logging"] := by
      cases x <;> decide
    simpa [htree, Except.toOption, hv] using htables x.part hpart
  · intro name hname hkey
    obtain ⟨x, -, hx⟩ := hknown name hname hkey
    exact ⟨x, hx⟩
  · intro name hname name' hname' x hx hx'
    exact hsingle name hname name' hname' ((of_decide_eq_true hx).trans (of_decide_eq_true hx').symm)

theorem eq_ok_of_toOption {e : Except Config.Error Settings} (h : e.toOption = some t) :
    e = .ok t := by
  cases e with
  | ok t' => exact congrArg Except.ok (Option.some.inj h)
  | error _ => cases h

def layeredFile : String :=
  "[server]\nhost = 'here'\nport = 1\n[gateway]\nnamespaces = ['/x']\nrestart_delay_ms = 7\n"

/-- Two of its settings are defined otherwise, and two more are; one mentions a variable. -/
def layeredEntries : String :=
  "NSGATE_SERVER__PORT=2\nexport NSGATE_GATEWAY__NAMESPACES='/a,/b'\n" ++
    "NSGATE_HEARTBEAT__PING_INTERVAL_MS=10 # short\nNSGATE_LOGGING__LEVEL=$VERBOSITY\n"

def layered : Surroundings where
  file := some (Text.Utf8.encode layeredFile)
  dotEnv := some layeredEntries
  env := [("VERBOSITY", "debug"), ("NSGATE_SERVER__PORT", "3")]

def layeredSettings : Settings :=
  { Settings.default with
    host := "here"
    port := 3
    namespaces := ["/a", "/b"]
    restartDelay := 7
    heartbeat := ⟨10, 20000⟩
    logLevel := "debug" }

theorem names_layered : layered.names = ["VERBOSITY", "NSGATE_SERVER__PORT", "NSGATE_SERVER__PORT",
    "NSGATE_GATEWAY__NAMESPACES", "NSGATE_HEARTBEAT__PING_INTERVAL_MS",
    "NSGATE_LOGGING__LEVEL"] := by
  decide +kernel

theorem isOrderly_layered : layered.IsOrderly :=
  isOrderly_of_checks [.port, .namespaces, .interval, .logLevel] (by decide +kernel) names_layered
    (by decide +kernel) (by decide +kernel) (by decide)

/-- These settings are loaded, and each of them can be read from what is said about it. -/
theorem settings_by_layers_layered : layered.IsOrderly ∧
    Config.load layered.file layered.allVariables = .ok layeredSettings ∧
    ∀ x : Setting, x.readFrom (layered.said? x) = .ok (x.get layeredSettings) := by
  have hload : Config.load layered.file layered.allVariables = .ok layeredSettings :=
    eq_ok_of_toOption (by decide +kernel)
  obtain ⟨hlayers, -, -, -⟩ := settings_by_layers isOrderly_layered
  obtain ⟨-, hread, -, -⟩ := (hlayers layeredSettings).mp hload
  exact ⟨isOrderly_layered, hload, hread⟩

/-! ### Where the entries of others have a part -/

/-- An entry for the host mentions the variable of the restart event, which has an entry above. -/
def mentioning (event : String) : Surroundings where
  file := none
  dotEnv := some ("NSGATE_GATEWAY__RESTART_EVENT=" ++ event ++
    "\nNSGATE_SERVER__HOST=$\x7bNSGATE_GATEWAY__RESTART_EVENT\x7d\n")
  env := []

def mentioningEntries (event : String) : List DotEnv.Entry :=
  [⟨"NSGATE_GATEWAY__RESTART_EVENT", event.toList.map .char⟩,
    ⟨"NSGATE_SERVER__HOST", [.mention "NSGATE_GATEWAY__RESTART_EVENT"]⟩]

theorem entries_mentioning : ∀ event ∈ ["a", "b"],
    (mentioning event).entries = mentioningEntries event := by
  decide +kernel

theorem isOrderly_mentioning {event : String} (h : event ∈ ["a", "b"]) :
    (mentioning event).IsOrderly := by
  have hnames : (mentioning event).names =
      ["NSGATE_GATEWAY__RESTART_EVENT", "NSGATE_SERVER__HOST"] := by
    rw [names, entries_mentioning event h]
    rfl
  have htables : ∀ part ∈ ["server", "gateway", "heartbeat", "logging"],
      ((mentioning event).fileTree.toOption.bind (·.member? part)).all Value.isTable = true := by
    intro part _
    rfl
  exact isOrderly_of_checks [.restartEvent, .host] htables hnames (by decide +kernel)
    (by decide +kernel) List.nodup_nil

/-- Only the entry for the restart event is another one. -/
theorem valueOf?_mentioning {event : String} (h : event ∈ ["a", "b"])
    (hx : x ≠ .restartEvent) : (mentioning event).valueOf? x =
      if Environment.isOf x "NSGATE_SERVER__HOST" then
        some [.mention "NSGATE_GATEWAY__RESTART_EVENT"]
      else none := by
  have hother : Environment.isOf x "NSGATE_GATEWAY__RESTART_EVENT" = false := by
    rw [Bool.eq_false_iff]
    intro hof
    exact hx (Environment.eq_of_isOf hof (by decide +kernel))
  rw [valueOf?, DotEnv.valueOf?, entries_mentioning event h, mentioningEntries,
    List.find?_cons_of_neg (by simp [hother])]
  by_cases hhost : Environment.isOf x "NSGATE_SERVER__HOST" = true
  · simp [hhost]
  · simp [hhost]

/-- **A setting may change with the entry of another one**: here every layer has the same text for
the host, and yet it is not the same. -/
theorem host_follows_mention : (mentioning "a").IsOrderly ∧ (mentioning "b").IsOrderly ∧
    (∀ x ≠ Setting.restartEvent, (mentioning "b").env.said? x = (mentioning "a").env.said? x ∧
      (mentioning "b").valueOf? x = (mentioning "a").valueOf? x ∧
      (mentioning "b").fileSaid? x = (mentioning "a").fileSaid? x) ∧
    Config.load (mentioning "a").file (mentioning "a").allVariables =
      .ok { Settings.default with restartEvent := "a", host := "a" } ∧
    Config.load (mentioning "b").file (mentioning "b").allVariables =
      .ok { Settings.default with restartEvent := "b", host := "b" } := by
  have ha : "a" ∈ ["a", "b"] := List.mem_cons_self
  have hb : "b" ∈ ["a", "b"] := List.mem_cons_of_mem _ List.mem_cons_self
  refine ⟨isOrderly_mentioning ha, isOrderly_mentioning hb, ?_, ?_, ?_⟩
  · intro x hx
    exact ⟨rfl, (valueOf?_mentioning hb hx).trans (valueOf?_mentioning ha hx).symm, rfl⟩
  · rw [allVariables_eq_foldl_add, entries_mentioning "a" ha]
    exact eq_ok_of_toOption (by decide +kernel)
  · rw [allVariables_eq_foldl_add, entries_mentioning "b" hb]
    exact eq_ok_of_toOption (by decide +kernel)

end SocketGateway.Cli.Surroundings
