import SocketGateway.Config.Environment
import SocketGateway.Config.Conversion
import SocketGateway.Proofs.Registry

/-!
# Settings in a tree

There are eleven settings, each with a section and a field, which stand for a place in the tree of
all that was said. `said?` is what stands there. Putting a value at the place of a setting changes
what is said about this one and about no other, and the settings of a tree are those that can be
read, each for itself, from what is said about them.
-/

namespace SocketGateway.Config

/-! ## Keys -/

def HasDistinctKeys {α : Type} (ms : List (String × α)) : Prop := (ms.map (·.1)).Nodup

section

variable {α : Type} {ms : List (String × α)} {k : String} {v : α}

theorem hasDistinctKeys_nil : HasDistinctKeys ([] : List (String × α)) := List.nodup_nil

theorem HasDistinctKeys.put (h : HasDistinctKeys ms) : HasDistinctKeys (Table.put k v ms) :=
  Table.nodup_keys_insert (t := ⟨ms⟩) h

theorem HasDistinctKeys.snoc (h : HasDistinctKeys ms) (hk : Table.lookup k ms = none) :
    HasDistinctKeys (ms ++ [(k, v)]) := by
  have hnew : k ∉ ms.map (·.1) := by
    intro hmem
    have hcontains := (Table.mem_keys_iff (t := ⟨ms⟩)).mp hmem
    rw [Table.contains, Table.find?, hk] at hcontains
    cases hcontains
  rw [HasDistinctKeys, List.map_append]
  refine List.nodup_append.mpr ⟨h, List.pairwise_singleton _ k, fun a ha b hb => ?_⟩
  rw [List.mem_singleton.mp hb]
  exact ne_of_mem_of_not_mem ha hnew

theorem mem_of_lookup (h : Table.lookup k ms = some v) : (k, v) ∈ ms := by
  induction ms with
  | nil => cases h
  | cons e ms ih =>
      obtain ⟨j, w⟩ := e
      rw [Table.lookup] at h
      split at h
      · rename_i hj
        cases h
        exact hj ▸ List.mem_cons_self
      · exact List.mem_cons_of_mem _ (ih h)

theorem mem_put {e : String × α} (h : e ∈ Table.put k v ms) : e = (k, v) ∨ e ∈ ms := by
  induction ms with
  | nil => exact .inl (List.mem_singleton.mp h)
  | cons e' ms ih =>
      obtain ⟨j, w⟩ := e'
      rw [Table.put] at h
      split at h
      · rcases List.mem_cons.mp h with rfl | hold
        · exact .inl rfl
        · exact .inr (List.mem_cons_of_mem _ hold)
      · rcases List.mem_cons.mp h with rfl | hrest
        · exact .inr List.mem_cons_self
        · exact (ih hrest).imp_right (List.mem_cons_of_mem _)

end

/-! ## The settings one by one -/

inductive Setting where
  | host
  | port
  | namespaces
  | restartEvent
  | restartDelay
  | rebindAttempts
  | drainGrace
  | maxConnections
  | interval
  | timeout
  | logLevel
deriving DecidableEq

namespace Setting

def part : Setting → String
  | host | port => "server"
  | namespaces | restartEvent | restartDelay | rebindAttempts | drainGrace | maxConnections =>
    "gateway"
  | interval | timeout => "heartbeat"
  | logLevel => "logging"

def field : Setting → String
  | host => "host"
  | port => "port"
  | namespaces => "namespaces"
  | restartEvent => "restart_event"
  | restartDelay => "restart_delay_ms"
  | rebindAttempts => "rebind_attempts"
  | drainGrace => "drain_grace_ms"
  | maxConnections => "max_connections"
  | interval => "ping_interval_ms"
  | timeout => "ping_timeout_ms"
  | logLevel => "level"

def key (x : Setting) : String := x.part ++ "." ++ x.field

def variableName (x : Setting) : String := "nsgate_" ++ x.part ++ "__" ++ x.field

/-- What a setting can be. -/
def Kind : Setting → Type
  | host | restartEvent | logLevel => String
  | namespaces => List String
  | port => UInt16
  | rebindAttempts => UInt32
  | restartDelay | drainGrace | maxConnections | interval | timeout => UInt64

def read : (x : Setting) → Value → Except Error x.Kind
  | host, v | restartEvent, v | logLevel, v => readText v
  | namespaces, v => readTexts v
  | port, v => (readNarrow 16 v).map Nat.toUInt16
  | rebindAttempts, v => (readNarrow 32 v).map Nat.toUInt32
  | restartDelay, v | drainGrace, v | maxConnections, v | interval, v | timeout, v =>
    (readNat v).map Nat.toUInt64

def get : (x : Setting) → Settings → x.Kind
  | host, s => s.host
  | port, s => s.port
  | namespaces, s => s.namespaces
  | restartEvent, s => s.restartEvent
  | restartDelay, s => s.restartDelay
  | rebindAttempts, s => s.rebindAttempts
  | drainGrace, s => s.drainGrace
  | maxConnections, s => s.maxConnections
  | interval, s => s.heartbeat.interval
  | timeout, s => s.heartbeat.timeout
  | logLevel, s => s.logLevel

theorem field_injective {x y : Setting} (h : x.field = y.field) : x = y := by
  cases x <;> cases y <;> first | rfl | (revert h; decide)

theorem path_key (x : Setting) : Step.path x.key = [.key x.part, .key x.field] := by
  cases x <;> decide +kernel

theorem path_part (x : Setting) : Step.path x.part = [.key x.part] := by
  cases x <;> decide +kernel

theorem keyOf?_of_variableName {x : Setting} {name : String}
    (h : Decimal.lower name.toList = x.variableName.toList) :
    Environment.keyOf? name = some x.key := by
  rw [Environment.keyOf?, h]
  cases x <;> decide +kernel

theorem ext_get {s s' : Settings} (h : ∀ x : Setting, x.get s = x.get s') : s = s' := by
  obtain ⟨_, _, _, _, _, _, _, _, ⟨_, _⟩, _⟩ := s
  obtain ⟨_, _, _, _, _, _, _, _, ⟨_, _⟩, _⟩ := s'
  obtain rfl := h host
  obtain rfl := h port
  obtain rfl := h namespaces
  obtain rfl := h restartEvent
  obtain rfl := h restartDelay
  obtain rfl := h rebindAttempts
  obtain rfl := h drainGrace
  obtain rfl := h maxConnections
  obtain rfl := h interval
  obtain rfl := h timeout
  obtain rfl := h logLevel
  rfl

theorem variableName_injective {x y : Setting} (h : x.variableName = y.variableName) : x = y := by
  cases x <;> cases y <;> first | rfl | (revert h; decide +kernel)

end Setting

namespace Value

variable {v tree : Value} {path : List Step} {f : Value → Value} {x y : Setting} {j k : String}

/-! ## What stands at a place -/

def member? (v : Value) (k : String) : Option Value :=
  match v with
  | (_, .table ms) => Table.lookup k ms
  | _ => none

def isTable : Value → Bool
  | (_, .table _) => true
  | _ => false

def isNil : Value → Bool
  | (_, .nil) => true
  | _ => false

/-- Whether a value stands for itself: it is no table, and it is not nothing. -/
def isLeaf (v : Value) : Bool := !v.isTable && !v.isNil

def said? (tree : Value) (x : Setting) : Option Value :=
  ((tree.member? x.part).bind (·.member? x.field)).filter (!·.isNil)

/-- The sections of a tree, where they are, are tables. -/
def HasTables (tree : Value) : Prop :=
  ∀ (x : Setting) v, tree.member? x.part = some v → v.isTable = true

theorem member?_modifyAt : (modifyAt f (.key k :: path) v).member? j =
    if k = j then some (modifyAt f path ((v.member? k).getD nil)) else v.member? j := by
  obtain ⟨o, n⟩ := v
  cases n with
  | table ms => exact Table.find?_insert ⟨ms⟩ k j _
  | _ => exact Table.find?_insert Table.empty k j _

theorem isTable_modifyAt : (modifyAt f (.key k :: path) v).isTable = true := rfl

theorem assign_of_isLeaf (h : v.isLeaf = true) (old : Value) : assign v.1 v.2 old = v := by
  obtain ⟨o, n⟩ := v
  cases n with
  | table | nil => cases h
  | _ => rfl

theorem setAll_cons {e : String × Value} {es : List (String × Value)} :
    tree.setAll (e :: es) = (tree.set e.1 e.2).setAll es := rfl

/-- **A value at the place of a setting** is what is said about that, and nothing else changes. -/
theorem said?_set (h : v.isLeaf = true) :
    (tree.set x.key v).said? y = if x = y then some v else tree.said? y := by
  have hmember : ((tree.set x.key v).member? y.part).bind (·.member? y.field) =
      if x = y then some v else (tree.member? y.part).bind (·.member? y.field) := by
    rw [set, x.path_key, member?_modifyAt]
    by_cases hpart : x.part = y.part
    · -- in the same section the names of the settings decide
      rw [if_pos hpart, Option.bind_some, member?_modifyAt, modifyAt, assign_of_isLeaf h, hpart]
      by_cases hxy : x = y
      · rw [if_pos hxy, if_pos (congrArg Setting.field hxy)]
      · rw [if_neg hxy, if_neg fun hfield => hxy (Setting.field_injective hfield)]
        cases tree.member? y.part <;> rfl
    · rw [if_neg hpart, if_neg fun hxy => hpart (congrArg Setting.part hxy)]
  have hnil : v.isNil = false := by
    simp only [isLeaf, Bool.and_eq_true, Bool.not_eq_true'] at h
    exact h.2
  rw [said?, hmember]
  split
  · simp [hnil]
  · rfl

theorem HasTables.set (h : tree.HasTables) : (tree.set x.key v).HasTables := by
  intro y w hw
  rw [Value.set, x.path_key, member?_modifyAt] at hw
  split at hw
  · cases hw
    exact isTable_modifyAt
  · exact h y w hw

theorem HasTables.setAll {es : List (String × Value)} (h : tree.HasTables)
    (hkeys : ∀ e ∈ es, ∃ x : Setting, e.1 = x.key) : (tree.setAll es).HasTables := by
  induction es generalizing tree with
  | nil => exact h
  | cons e es ih =>
      obtain ⟨x, hx⟩ := hkeys e List.mem_cons_self
      rw [setAll_cons, hx]
      exact ih h.set fun e' he' => hkeys e' (List.mem_cons_of_mem e he')

end Value

/-! ## Reading the settings -/

section

variable {α β : Type} {e : Error} {a : α}

theorem bind_eq_ok_iff {r : Except Error α} {f : α → Except Error β} {b : β} :
    (r >>= f) = .ok b ↔ ∃ a, r = .ok a ∧ f a = .ok b := by
  cases r with
  | ok a => simp [bind, Except.bind]
  | error e => simp [bind, Except.bind]

theorem map_eq_ok_iff {r : Except Error α} {f : α → β} {b : β} :
    r.map f = .ok b ↔ ∃ a, r = .ok a ∧ f a = b := by
  cases r <;> simp [Except.map]

theorem mapError_eq_ok_iff {r : Except Error α} {f : Error → Error} :
    r.mapError f = .ok a ↔ r = .ok a := by
  rcases r with e | a'
  · show Except.error (f e) = .ok a ↔ Except.error e = .ok a
    simp
  · exact Iff.rfl

end

def Section.ofTree (tree : Value) (name : String) : Section :=
  match tree.member? name with
  | some (_, .table ms) => .table ms
  | _ => .absent

variable {α : Type} {tree : Value} {x : Setting}

theorem readSection_eq_ok_iff (h : tree.HasTables) {form : SectionForm}
    {read : Section → Except Error α} {a : α} :
    readSection tree x.part form read = .ok a ↔ read (Section.ofTree tree x.part) = .ok a := by
  have hvalue : readSection tree x.part form read =
      (Section.ofValue form ((tree.member? x.part).getD Value.nil) >>= read).mapError
        (·.inKey x.part) := by
    obtain ⟨o, n⟩ := tree
    cases n <;> rfl
  rw [hvalue, mapError_eq_ok_iff, Section.ofTree]
  cases hmember : tree.member? x.part with
  | none => rfl
  | some v =>
      have htable := h x v hmember
      obtain ⟨o, n⟩ := v
      cases n with
      | table ms => rfl
      | _ => cases htable

theorem unlessNil_eq_ok_iff {read : Value → Except Error α} {v : Value} {o : Option α} :
    Section.unlessNil read v = .ok o ↔
      if v.isNil then o = none else ∃ a, o = some a ∧ read v = .ok a := by
  have hread : (read v).map some = .ok o ↔ ∃ a, o = some a ∧ read v = .ok a := by
    rw [map_eq_ok_iff]
    exact exists_congr fun a => and_comm.trans (and_congr_left fun _ => eq_comm)
  obtain ⟨origin, n⟩ := v
  cases n with
  | nil => simp [Section.unlessNil, Value.isNil, eq_comm]
  | _ => exact hread

/-- A setting of a section is what can be read from what is said about it. -/
theorem setting_eq_ok_iff {form : SectionForm} {i : Nat} {read : Value → Except Error α}
    {o : Option α} :
    (Section.ofTree tree x.part).setting form i x.field read = .ok o ↔
      match tree.said? x with
      | none => o = none
      | some v => ∃ a, o = some a ∧ read v = .ok a := by
  have habsent : (Section.absent.setting form i x.field read = .ok o) ↔ o = none := by
    simp [Section.setting, eq_comm]
  -- a section that is not there reads as one that says nothing
  cases hmember : tree.member? x.part with
  | none => simpa [Section.ofTree, Value.said?, hmember] using habsent
  | some v =>
      obtain ⟨origin, n⟩ := v
      cases n with
      | table ms =>
          have hinner : Value.member? (origin, .table ms) x.field = Table.lookup x.field ms := rfl
          simp only [Section.ofTree, Value.said?, hmember, Section.setting, Option.bind_some,
            hinner]
          cases Table.lookup x.field ms with
          | none => simp [eq_comm]
          | some w =>
              simp only [mapError_eq_ok_iff, unlessNil_eq_ok_iff]
              cases hnil : Value.isNil w <;> simp [Option.filter, hnil]
      | _ =>
          have hinner : ∀ n, (∀ ms, n ≠ .table ms) →
              Value.member? (origin, n) x.field = none := by
            intro n hn
            cases n with
            | table ms => exact absurd rfl (hn ms)
            | _ => rfl
          simpa [Section.ofTree, Value.said?, hmember, hinner] using habsent

/-- How a setting is read from what is said about it: as by default, if nothing is. -/
def Setting.readFrom (x : Setting) : Option Value → Except Error x.Kind
  | some v => x.read v
  | none => .ok (x.get Settings.default)

theorem reading_iff (x : Setting) (form : SectionForm) (i : Nat) (read : Value → Except Error α)
    {f : α → x.Kind} (hread : ∀ v, x.read v = (read v).map f) {k : x.Kind} :
    x.readFrom (tree.said? x) = .ok k ↔
      ∃ o, (Section.ofTree tree x.part).setting form i x.field read = .ok o ∧
        (o.map f).getD (x.get Settings.default) = k := by
  simp only [setting_eq_ok_iff]
  cases tree.said? x with
  | none => simp [Setting.readFrom]
  | some v =>
      rw [Setting.readFrom, hread, map_eq_ok_iff]
      constructor
      · rintro ⟨a, ha, hfa⟩
        exact ⟨some a, ⟨a, rfl, ha⟩, hfa⟩
      · rintro ⟨_, ⟨a, rfl, ha⟩, hfa⟩
        exact ⟨a, ha, hfa⟩

/-- A setting that needs no conversion after it was read. -/
theorem plain_reading_iff (x : Setting) (form : SectionForm) (i : Nat)
    (read : Value → Except Error x.Kind) (hread : ∀ v, x.read v = read v) {k : x.Kind} :
    x.readFrom (tree.said? x) = .ok k ↔
      ∃ o, (Section.ofTree tree x.part).setting form i x.field read = .ok o ∧
        o.getD (x.get Settings.default) = k := by
  have hid : ∀ v, x.read v = (read v).map id := by
    intro v
    rw [hread]
    cases read v <;> rfl
  rw [reading_iff x form i read hid]
  simp

/-- **The settings of a tree** are those that can be read from it one by one. -/
theorem ofTree_eq_ok_iff (h : tree.HasTables) {s : Settings} :
    Settings.ofTree tree = .ok s ↔ ∀ x : Setting, x.readFrom (tree.said? x) = .ok (x.get s) := by
  have hserver : ∀ {β : Type} {read : Section → Except Error β} {a : β},
      readSection tree "server" serverForm read = .ok a ↔
        read (Section.ofTree tree "server") = .ok a := readSection_eq_ok_iff (x := .host) h
  have hgateway : ∀ {β : Type} {read : Section → Except Error β} {a : β},
      readSection tree "gateway" gatewayForm read = .ok a ↔
        read (Section.ofTree tree "gateway") = .ok a := readSection_eq_ok_iff (x := .namespaces) h
  have hheartbeat : ∀ {β : Type} {read : Section → Except Error β} {a : β},
      readSection tree "heartbeat" heartbeatForm read = .ok a ↔
        read (Section.ofTree tree "heartbeat") = .ok a := readSection_eq_ok_iff (x := .interval) h
  have hlogging : ∀ {β : Type} {read : Section → Except Error β} {a : β},
      readSection tree "logging" loggingForm read = .ok a ↔
        read (Section.ofTree tree "logging") = .ok a := readSection_eq_ok_iff (x := .logLevel) h
  -- what was read of every section, and of every setting in it, is now a name of its own
  unfold Settings.ofTree
  simp only [bind_eq_ok_iff, hserver, hgateway, hheartbeat, hlogging, Prod.exists]
  constructor
  · rintro ⟨host, port, ⟨_, hhost, _, hport, ⟨⟩⟩, _, ⟨namespaces, hnamespaces, event, hevent, delay,
      hdelay, attempts, hattempts, grace, hgrace, connections, hconnections, ⟨⟩⟩, _, ⟨interval,
      hinterval, timeout, htimeout, ⟨⟩⟩, level, hlevel, ⟨⟩⟩ x
    cases x with
    | host => exact (plain_reading_iff _ _ _ _ fun _ => rfl).mpr ⟨host, hhost, rfl⟩
    | port => exact (reading_iff _ _ _ _ fun _ => rfl).mpr ⟨port, hport, rfl⟩
    | namespaces =>
        exact (plain_reading_iff _ _ _ _ fun _ => rfl).mpr ⟨namespaces, hnamespaces, rfl⟩
    | restartEvent => exact (plain_reading_iff _ _ _ _ fun _ => rfl).mpr ⟨event, hevent, rfl⟩
    | restartDelay => exact (reading_iff _ _ _ _ fun _ => rfl).mpr ⟨delay, hdelay, rfl⟩
    | rebindAttempts => exact (reading_iff _ _ _ _ fun _ => rfl).mpr ⟨attempts, hattempts, rfl⟩
    | drainGrace => exact (reading_iff _ _ _ _ fun _ => rfl).mpr ⟨grace, hgrace, rfl⟩
    | maxConnections =>
        exact (reading_iff _ _ _ _ fun _ => rfl).mpr ⟨connections, hconnections, rfl⟩
    | interval => exact (reading_iff _ _ _ _ fun _ => rfl).mpr ⟨interval, hinterval, rfl⟩
    | timeout => exact (reading_iff _ _ _ _ fun _ => rfl).mpr ⟨timeout, htimeout, rfl⟩
    | logLevel => exact (plain_reading_iff _ _ _ _ fun _ => rfl).mpr ⟨level, hlevel, rfl⟩
  · intro hs
    obtain ⟨host, hhost, ehost⟩ :=
      (plain_reading_iff .host serverForm 0 readText fun _ => rfl).mp (hs .host)
    obtain ⟨port, hport, eport⟩ :=
      (reading_iff .port serverForm 1 (readNarrow 16) fun _ => rfl).mp (hs .port)
    obtain ⟨namespaces, hnamespaces, enamespaces⟩ :=
      (plain_reading_iff .namespaces gatewayForm 0 readTexts fun _ => rfl).mp (hs .namespaces)
    obtain ⟨event, hevent, eevent⟩ :=
      (plain_reading_iff .restartEvent gatewayForm 1 readText fun _ => rfl).mp (hs .restartEvent)
    obtain ⟨delay, hdelay, edelay⟩ :=
      (reading_iff .restartDelay gatewayForm 2 readNat fun _ => rfl).mp (hs .restartDelay)
    obtain ⟨attempts, hattempts, eattempts⟩ :=
      (reading_iff .rebindAttempts gatewayForm 3 (readNarrow 32) fun _ => rfl).mp
        (hs .rebindAttempts)
    obtain ⟨grace, hgrace, egrace⟩ :=
      (reading_iff .drainGrace gatewayForm 4 readNat fun _ => rfl).mp (hs .drainGrace)
    obtain ⟨connections, hconnections, econnections⟩ :=
      (reading_iff .maxConnections gatewayForm 5 readNat fun _ => rfl).mp (hs .maxConnections)
    obtain ⟨interval, hinterval, einterval⟩ :=
      (reading_iff .interval heartbeatForm 0 readNat fun _ => rfl).mp (hs .interval)
    obtain ⟨timeout, htimeout, etimeout⟩ :=
      (reading_iff .timeout heartbeatForm 1 readNat fun _ => rfl).mp (hs .timeout)
    obtain ⟨level, hlevel, elevel⟩ :=
      (plain_reading_iff .logLevel loggingForm 0 readText fun _ => rfl).mp (hs .logLevel)
    refine ⟨host, port, ⟨_, hhost, _, hport, rfl⟩, _, ⟨namespaces, hnamespaces, event, hevent,
      delay, hdelay, attempts, hattempts, grace, hgrace, connections, hconnections, rfl⟩, _,
      ⟨interval, hinterval, timeout, htimeout, rfl⟩, level, hlevel, ?_⟩
    refine congrArg Except.ok (Setting.ext_get fun x => ?_)
    cases x
    all_goals assumption

end SocketGateway.Config
