import Mathlib.Data.Char
import Mathlib.Data.List.Lex
import Mathlib.Data.List.Sort
import RoleGate.Registry
import RoleGate.Proofs.Store.Edit
import RoleGate.Proofs.Text.Lowercase
import RoleGate.Proofs.Value

/-!
# Histories of the registry

A registration sets the kind of engines under a name in lower case, and no other request changes the
registry. So each reply can be told from the requests before it, where the registry at the start is
one in which the engines that decide by rule tables were registered.

## Main definitions

* `Registry.Newest` — the kind that was registered last under a name, in whatever case.
* `Registry.Lists` — the names that were registered, in lower case and sorted.
* `Registry.Answers` — the reply to a request, told from the requests before it.
* `Registry.Remembers` — the kinds of a registry are what a history leaves.
* `Registry.Serves` — what can be had from a registry, told from a history.

## Main statements

* `Registry.Remembers.step`, `Registry.Remembers.run` — one more request, and requests in a row.
* `Registry.Remembers.reply_eq_iff` — there is one reply to a request, which the history tells.
* `Registry.replies_of_history` — the replies of every run from the start.
-/

namespace RoleGate

open OrderedMap (Edit LastSet)

/-- Names are in the order of their code points. -/
theorem Text.precedes_iff_lt {s t : Text} : Text.precedes s t = true ↔ s < t := by
  fun_induction Text.precedes s t with
  | case1 t => cases t <;> simp
  | case2 a s => simp
  | case3 a s t ih => simp [ih]
  | case4 a s b t h =>
    rw [List.cons_lt_cons_iff, decide_eq_true_iff]
    simp only [h, false_and, or_false]
    exact Iff.rfl

namespace Registry

variable {ε : Type} {r : Registry ε} {history : List (Request ε)} {request : Request ε}
  {reply : Except Error (Reply ε)} {key name : Text} {names : List Text} {make : Maker ε}

/-! ## What a history tells -/

/-- The kind that was registered last under the name, in whatever case. -/
def Newest (name : Text) (make : Maker ε) (history : List (Request ε)) : Prop :=
  ∃ before written after, history = before ++ .register written make :: after ∧
    Text.lowercase written = Text.lowercase name ∧
    ∀ other kind, .register other kind ∈ after → Text.lowercase other ≠ Text.lowercase name

/-- The names that were registered, in lower case, strictly sorted by their code points. -/
structure Lists (names : List Text) (history : List (Request ε)) : Prop where
  sorted : names.SortedLT
  mem_iff : ∀ name, name ∈ names ↔
    ∃ written make, .register written make ∈ history ∧ Text.lowercase written = name

/-- The reply to a request, told from the requests before it. -/
inductive Answers (history : List (Request ε)) : Request ε → Except Error (Reply ε) → Prop where
  | registered (name : Text) (make : Maker ε) :
    Answers history (.register name make) (.ok .registered)
  | listed {names : List Text} (h : Lists names history) :
    Answers history .available (.ok (.names names))
  | made {name : Text} {make : Maker ε} (config : OrderedMap Value) (parts : Parts)
    (h : Newest name make history) :
    Answers history (.create name config parts) ((make config parts).map .created)
  | unknown {name : Text} {names : List Text} (config : OrderedMap Value) (parts : Parts)
    (hnew : ∀ make, ¬ Newest name make history) (hlists : Lists names history) :
    Answers history (.create name config parts)
      (.error (.unknownEngine (Text.lowercase name) names))

/-- The names are told in one way only. -/
theorem Lists.unique {others : List Text} (h : Lists names history) (h' : Lists others history) :
    names = others :=
  h.sorted.pairwise.eq_of_mem_iff h'.sorted.pairwise
    fun name => (h.mem_iff name).trans (h'.mem_iff name).symm

/-- More requests take no name off the list. -/
theorem Lists.subset {later : List (Request ε)} {others : List Text} (h : Lists names history)
    (h' : Lists others (history ++ later)) : names ⊆ others := by
  intro name hname
  obtain ⟨written, make, hmem, hwritten⟩ := (h.mem_iff name).1 hname
  exact (h'.mem_iff name).2 ⟨written, make, List.mem_append_left later hmem, hwritten⟩

/-! ## Requests as edits -/

/-- The edit of the kinds that a request makes. -/
def Request.edit : Request ε → Edit (Maker ε)
  | register name make => .set (Text.lowercase name) make
  | create _ _ _ => .skip
  | available => .skip

theorem Request.edit_eq_set_iff :
    request.edit = .set key make ↔
      ∃ written, request = .register written make ∧ Text.lowercase written = key := by
  cases request <;> simp [edit, and_comm]

theorem Request.settles_edit_iff :
    request.edit.Settles key ↔
      ∃ written make, request = .register written make ∧ Text.lowercase written = key := by
  cases request <;> simp [edit, Edit.Settles, Edit.Removes]

/-- The newest kind is what the last edit of it leaves. -/
theorem newest_iff_lastSet :
    Newest name make history ↔
      LastSet (Text.lowercase name) make (history.map Request.edit) := by
  constructor
  · rintro ⟨before, written, after, rfl, hwritten, hafter⟩
    refine ⟨before.map Request.edit, after.map Request.edit,
      by simp [Request.edit, hwritten], fun e he hsettles => ?_⟩
    obtain ⟨request, hrequest, rfl⟩ := List.mem_map.1 he
    obtain ⟨other, kind, rfl, hother⟩ := Request.settles_edit_iff.1 hsettles
    exact hafter other kind hrequest hother
  · rintro ⟨before, after, hmap, hafter⟩
    obtain ⟨before, rest, rfl, rfl, hrest⟩ := List.map_eq_append_iff.1 hmap
    obtain ⟨request, after, rfl, hrequest, rfl⟩ := List.map_eq_cons_iff.1 hrest
    obtain ⟨written, rfl, hwritten⟩ := Request.edit_eq_set_iff.1 hrequest
    refine ⟨before, written, after, rfl, hwritten, fun other kind hmem hother => ?_⟩
    exact hafter _ (List.mem_map_of_mem hmem)
      (Request.settles_edit_iff.2 ⟨other, kind, rfl, hother⟩)

/-- There is a kind under a key as soon as one was registered, since none is ever taken away. -/
theorem exists_lastSet_iff :
    (∃ make, LastSet key make (history.map Request.edit)) ↔
      ∃ written make, .register written make ∈ history ∧ Text.lowercase written = key := by
  induction history using List.reverseRecOn with
  | nil => simp [OrderedMap.not_lastSet_nil]
  | append_singleton history request ih =>
    simp only [List.map_append, List.map_cons, List.map_nil, OrderedMap.lastSet_append_singleton,
      Request.edit_eq_set_iff, Request.settles_edit_iff, List.mem_append, List.mem_singleton]
    grind

theorem makers_step (r : Registry ε) (request : Request ε) :
    (r.step request).2.makers = r.makers.edit request.edit := by
  cases request <;> rfl

/-! ## What a registry remembers -/

/-- The kinds of the registry are what the requests leave. -/
def Remembers (r : Registry ε) (history : List (Request ε)) : Prop :=
  r.makers.LeftBy (history.map Request.edit)

theorem mem_available_iff : name ∈ r.available ↔ ∃ make, r.makers.get? name = some make := by
  rw [available, List.mem_mergeSort, ← OrderedMap.get?_isSome, Option.isSome_iff_exists]

theorem sortedLT_available (r : Registry ε) : r.available.SortedLT := by
  have horder : (fun s t : Text => !Text.precedes t s) = fun s t => decide (s ≤ t) := by
    funext s t
    rw [Bool.eq_iff_iff, Bool.not_eq_true', ← Bool.not_eq_true, Text.precedes_iff_lt, not_lt,
      decide_eq_true_iff]
  have hsorted : r.available.Pairwise (· ≤ ·) := by
    rw [available, horder]
    exact List.pairwise_mergeSort' (· ≤ ·) r.makers.keys
  have hnodup : r.available.Nodup :=
    (List.mergeSort_perm r.makers.keys _).nodup_iff.2 r.makers.nodup_keys
  exact ((hsorted.and hnodup).imp fun h => lt_of_le_of_ne h.1 h.2).sortedLT

namespace Remembers

/-- One more request. -/
protected theorem step (h : r.Remembers history) (request : Request ε) :
    (r.step request).2.Remembers (history ++ [request]) := by
  rw [Remembers, makers_step, List.map_append]
  exact OrderedMap.LeftBy.edit h request.edit

/-- Requests in a row. -/
protected theorem run (h : r.Remembers history) (requests : List (Request ε)) :
    (r.run requests).2.Remembers (history ++ requests) := by
  induction requests generalizing r history with
  | nil => simpa [Registry.run] using h
  | cons request requests ih => simpa [Registry.run] using ih (h.step request)

theorem lists_available (h : r.Remembers history) : Lists r.available history where
  sorted := sortedLT_available r
  mem_iff name := by
    rw [mem_available_iff, ← exists_lastSet_iff]
    exact exists_congr (h.get? name)

theorem find_eq_ok_iff (h : r.Remembers history) :
    r.find name = .ok make ↔ Newest name make history := by
  rw [newest_iff_lastSet, ← h.get?, find]
  cases r.makers.get? (Text.lowercase name) <;> simp

theorem exists_newest_iff (h : r.Remembers history) :
    (∃ make, Newest name make history) ↔ Text.lowercase name ∈ r.available := by
  rw [mem_available_iff]
  exact exists_congr fun make => newest_iff_lastSet.trans (h.get? _ make).symm

end Remembers

/-! ## Replies -/

theorem find_of_notMem (h : Text.lowercase name ∉ r.available) :
    r.find name = .error (.unknownEngine (Text.lowercase name) r.available) := by
  have hnone : r.makers.get? (Text.lowercase name) = none := by
    rw [mem_available_iff, not_exists] at h
    exact Option.eq_none_iff_forall_ne_some.2 h
  rw [find, hnone]

theorem create_of_find (h : r.find name = .ok make) (config : OrderedMap Value) (parts : Parts) :
    r.create name config parts = make config parts := by
  rw [create, h]
  rfl

theorem create_of_notMem (h : Text.lowercase name ∉ r.available) (config : OrderedMap Value)
    (parts : Parts) :
    r.create name config parts = .error (.unknownEngine (Text.lowercase name) r.available) := by
  rw [create, find_of_notMem h]
  rfl

/-- The reply to a request is what the history tells. -/
theorem Remembers.answers_step (h : r.Remembers history) (request : Request ε) :
    Answers history request (r.step request).1 := by
  cases request with
  | register name make => exact .registered name make
  | available => exact .listed h.lists_available
  | create name config parts =>
    rw [step]
    by_cases hlisted : Text.lowercase name ∈ r.available
    · obtain ⟨make, hnewest⟩ := h.exists_newest_iff.2 hlisted
      rw [create_of_find (h.find_eq_ok_iff.2 hnewest)]
      exact .made config parts hnewest
    · rw [create_of_notMem hlisted]
      refine .unknown config parts (fun make hnewest => ?_) h.lists_available
      exact hlisted (h.exists_newest_iff.1 ⟨make, hnewest⟩)

/-- There is one reply to a request, which the history tells. -/
theorem Remembers.reply_eq_iff (h : r.Remembers history) :
    (r.step request).1 = reply ↔ Answers history request reply := by
  constructor
  · rintro rfl
    exact h.answers_step request
  · intro hanswers
    cases hanswers with
    | registered name make => rfl
    | listed hlists => rw [step, h.lists_available.unique hlists]
    | made config parts hnewest => rw [step, create_of_find (h.find_eq_ok_iff.2 hnewest)]
    | unknown config parts hnew hlists =>
      have hunlisted := mt h.exists_newest_iff.2 (not_exists.2 hnew)
      rw [step, create_of_notMem hunlisted, h.lists_available.unique hlists]
      rfl

/-- What can be had from a registry, told from a history. -/
structure Serves (r : Registry ε) (history : List (Request ε)) : Prop where
  lists : Lists r.available history
  /-- A name is found if it is listed in lower case, and under no other condition. -/
  found : ∀ name, (∃ make, r.find name = .ok make) ↔ Text.lowercase name ∈ r.available
  /-- What is found was registered last. -/
  newest : ∀ name make, r.find name = .ok make ↔ Newest name make history
  /-- An engine of the kind that is found is made from what was given, or the kind rejects that. -/
  built : ∀ name make config parts, r.find name = .ok make →
    r.create name config parts = make config parts
  unknown : ∀ name config parts, Text.lowercase name ∉ r.available →
    ∃ cause, r.create name config parts = .error cause ∧ cause.kind = "EngineNotAvailableError"
  /-- A listed name is found as it stands. -/
  listed : ∀ name ∈ r.available, ∃ make, r.find name = .ok make

theorem Remembers.serves (h : r.Remembers history) : r.Serves history where
  lists := h.lists_available
  found name := (exists_congr fun make => h.find_eq_ok_iff).trans h.exists_newest_iff
  newest name make := h.find_eq_ok_iff
  built name make config parts hfind := create_of_find hfind config parts
  unknown name config parts hunlisted := ⟨_, create_of_notMem hunlisted config parts, rfl⟩
  listed name hname := by
    -- the list holds lower case forms only, which lower case leaves alone
    obtain ⟨written, make, -, rfl⟩ := (h.lists_available.mem_iff name).1 hname
    have hlisted : Text.lowercase (Text.lowercase written) ∈ r.available := by simpa using hname
    obtain ⟨make, hnewest⟩ := h.exists_newest_iff.2 hlisted
    exact ⟨make, h.find_eq_ok_iff.2 hnewest⟩

/-! ## Runs -/

theorem run_append (r : Registry ε) (first second : List (Request ε)) :
    r.run (first ++ second) =
      ((r.run first).1 ++ ((r.run first).2.run second).1, ((r.run first).2.run second).2) := by
  induction first generalizing r with
  | nil => rfl
  | cons request rest ih => simp [run, ih]

theorem length_run (r : Registry ε) (requests : List (Request ε)) :
    (r.run requests).1.length = requests.length := by
  induction requests generalizing r with
  | nil => rfl
  | cons request rest ih => simp [run, ih]

/-- The reply to a request in a run is that of the registry after the requests before it. -/
theorem getElem?_run (r : Registry ε) (past later : List (Request ε)) (request : Request ε) :
    (r.run (past ++ request :: later)).1[past.length]? =
      some ((r.run past).2.step request).1 := by
  rw [run_append, ← length_run r past, List.getElem?_append_right le_rfl, Nat.sub_self]
  rfl

section

variable [Pattern.Machine]

/-- The registration that the registry at the start stands for. -/
def opening : Request AnyEngine :=
  .register Engine.name Engine.make

omit [Pattern.Machine] in
theorem lowercase_name : Text.lowercase Engine.name = Engine.name := by
  decide +kernel

/-- What was registered counting from the start: the engines at the start, and what came later. -/
theorem exists_registered_iff {past : List (Request AnyEngine)} :
    (∃ written make, .register written make ∈ opening :: past ∧ Text.lowercase written = name) ↔
      name = Engine.name ∨
        ∃ written make, .register written make ∈ past ∧ Text.lowercase written = name := by
  constructor
  · rintro ⟨written, make, hmem, rfl⟩
    obtain hopening | hpast := List.mem_cons.1 hmem
    · cases hopening
      exact .inl lowercase_name
    · exact .inr ⟨written, make, hpast, rfl⟩
  · rintro (rfl | ⟨written, make, hmem, hwritten⟩)
    · exact ⟨Engine.name, Engine.make, List.mem_cons_self, lowercase_name⟩
    · exact ⟨written, make, List.mem_cons_of_mem _ hmem, hwritten⟩

theorem remembers_initial : initial.Remembers [opening] := by
  have hopening : opening.edit = .set Engine.name Engine.make := by
    rw [opening, Request.edit, lowercase_name]
  rw [Remembers, List.map_singleton, hopening]
  exact OrderedMap.leftBy_empty.edit (.set Engine.name Engine.make)

end

/-- An engine that is asked for changes nothing, whether it can be had or not: the other replies in
a run are those of the run without the request. -/
theorem run_create (r : Registry ε) (past later : List (Request ε)) (name : Text)
    (config : OrderedMap Value) (parts : Parts) :
    (r.run (past ++ .create name config parts :: later)).2 = (r.run (past ++ later)).2 ∧
      (r.run (past ++ .create name config parts :: later)).1.eraseIdx past.length =
        (r.run (past ++ later)).1 := by
  rw [run_append, run_append, ← length_run r past, List.eraseIdx_append_of_length_le le_rfl,
    Nat.sub_self]
  exact ⟨rfl, rfl⟩

/-! ## Kinds that reject configurations -/

/-- The kind never says of itself that it is not available. -/
def NeverMissing (make : Maker ε) : Prop :=
  ∀ config parts cause, make config parts = .error cause →
    cause.kind ≠ "EngineNotAvailableError"

theorem about_kind_or_eq (fault : Shown → ConfigurationFault) (v : Value) :
    (Error.about fault v).kind = "ConfigurationError" ∨
      Error.about fault v = .numeralTooLong := by
  by_cases h : v.Oversized
  · exact .inr (Error.about_of_oversized h)
  · exact .inl (Error.kind_about h)

theorem of_readDefaultAllow {v : Option Value} {cause : Error}
    (h : Settings.readDefaultAllow v = .error cause) :
    cause.kind = "ConfigurationError" ∨ cause = .numeralTooLong := by
  unfold Settings.readDefaultAllow at h
  split at h <;> cases h
  exact about_kind_or_eq _ _

theorem of_readRoleWildcard {v : Option Value} {cause : Error}
    (h : Settings.readRoleWildcard v = .error cause) :
    cause.kind = "ConfigurationError" ∨ cause = .numeralTooLong := by
  unfold Settings.readRoleWildcard at h
  split at h
  · cases h
  · cases h
  · split at h <;> cases h
    exact about_kind_or_eq _ _
  · cases h
    exact about_kind_or_eq _ _

section

variable [Pattern.Machine]

/-- The kind that decides by rule tables rejects what is misconfigured, and nothing else. Its
complaint may be one that cannot be written. -/
theorem of_make {config : OrderedMap Value} {parts : Parts} {cause : Error}
    (h : Engine.make config parts = .error cause) :
    cause.kind = "ConfigurationError" ∨ cause = .numeralTooLong := by
  rw [Engine.make, Engine.ofConfig, Settings.ofConfig] at h
  cases hallow : Settings.readDefaultAllow (config.get? "default_allow") with
  | error fault =>
    rw [hallow] at h
    cases h
    exact of_readDefaultAllow hallow
  | ok allow =>
    cases hwildcard : Settings.readRoleWildcard (config.get? "role_wildcard") with
    | error fault =>
      rw [hallow, hwildcard] at h
      cases h
      exact of_readRoleWildcard hwildcard
    | ok wildcard =>
      rw [hallow, hwildcard] at h
      cases h

theorem neverMissing_make : NeverMissing Engine.make := by
  intro config parts cause h
  obtain hkind | rfl := of_make h
  · rw [hkind]
    decide +kernel
  · decide +kernel

omit [Pattern.Machine] in
/-- A name that is listed is never missing, unless a kind says so of itself. -/
theorem Remembers.kind_of_create (h : r.Remembers history)
    (hkinds : ∀ written make, .register written make ∈ history → NeverMissing make)
    (hname : name ∈ r.available) {config : OrderedMap Value} {parts : Parts} {cause : Error}
    (hcreate : r.create name config parts = .error cause) :
    cause.kind ≠ "EngineNotAvailableError" := by
  obtain ⟨make, hfind⟩ := h.serves.listed name hname
  obtain ⟨before, written, after, rfl, -, -⟩ := h.find_eq_ok_iff.1 hfind
  rw [create_of_find hfind] at hcreate
  exact hkinds written make (by simp) config parts cause hcreate

/-! ## The registry from the start -/

/-- From the start a registry is a map from names to kinds in which case does not matter. After
every run it lists `acl` and the names that were registered, in lower case, strictly sorted, and it
finds what was registered last under a name that is listed in lower case, and nothing else. Each
reply in a run is the one that the requests before it tell. The list never loses a name, an engine
that is asked for changes nothing, and a listed name is never missing, unless a kind says so of
itself. -/
theorem replies_of_history :
    (∀ past, (initial.run past).2.Serves (opening :: past)) ∧
    (∀ past name, name ∈ (initial.run past).2.available ↔ name = Engine.name ∨
      ∃ written make, .register written make ∈ past ∧ Text.lowercase written = name) ∧
    (∀ past request later reply,
      (initial.run (past ++ request :: later)).1[past.length]? = some reply ↔
        Answers (opening :: past) request reply) ∧
    (∀ past later, (initial.run past).2.available ⊆ (initial.run (past ++ later)).2.available) ∧
    (∀ past name config parts later,
      (initial.run (past ++ .create name config parts :: later)).2 =
        (initial.run (past ++ later)).2 ∧
      (initial.run (past ++ .create name config parts :: later)).1.eraseIdx past.length =
        (initial.run (past ++ later)).1) ∧
    ∀ past, (∀ written make, .register written make ∈ past → NeverMissing make) →
      ∀ name ∈ (initial.run past).2.available, ∀ config parts cause,
        (initial.run past).2.create name config parts = .error cause →
          cause.kind ≠ "EngineNotAvailableError" := by
  have hremembers (past : List (Request AnyEngine)) :
      (initial.run past).2.Remembers (opening :: past) := remembers_initial.run past
  refine ⟨fun past => (hremembers past).serves, fun past name => ?_,
    fun past request later reply => ?_, fun past later => ?_,
    fun past name config parts later => run_create initial past later name config parts,
    fun past hkinds name hname config parts cause hcreate => ?_⟩
  · rw [(hremembers past).lists_available.mem_iff, exists_registered_iff]
  · rw [getElem?_run, Option.some.injEq]
    exact (hremembers past).reply_eq_iff
  · exact (hremembers past).lists_available.subset (hremembers (past ++ later)).lists_available
  · refine (hremembers past).kind_of_create (fun written make hmem => ?_) hname hcreate
    obtain hopening | hpast := List.mem_cons.1 hmem
    · cases hopening
      exact neverMissing_make
    · exact hkinds written make hpast

end

/-- The kind of engines that bear a name and allow nothing. -/
def bearing (name : Text) : Maker AnyEngine :=
  fun _ _ => .ok ⟨name, fun _ _ _ => return .deny none [] .empty⟩

/-- A setting that engines that decide by rule tables reject. -/
def strict : OrderedMap Value :=
  .ofList [("default_allow", .text "no")]

/-- A kind is registered and replaced under other spellings of its name, and engines are asked for
that can be had and that cannot. -/
def porters : List (Request AnyEngine) :=
  [.register "Porter" (bearing "day"), .create "PORTER", .create "clerk",
    .register "pOrTeR" (bearing "night"), .create "ACL" strict]

theorem registered_porters {written : Text} {make : Maker AnyEngine}
    (hmem : .register written make ∈ porters) :
    Text.lowercase written = "porter" ∧ (make = bearing "day" ∨ make = bearing "night") := by
  simp only [porters, List.mem_cons, Request.register.injEq, reduceCtorEq, List.not_mem_nil,
    false_or, or_false] at hmem
  obtain ⟨rfl, rfl⟩ | ⟨rfl, rfl⟩ := hmem
  · exact ⟨by decide +kernel, .inl rfl⟩
  · exact ⟨by decide +kernel, .inr rfl⟩

/-- The last registration counts under every spelling of the name, and a rejected configuration is
no missing engine. -/
theorem replies_of_history_of_porters :
    (initial.run (porters ++ [.available])).1[5]? = some (.ok (.names ["acl", "porter"])) ∧
    (initial.run porters).2.create "PORTER" = bearing "night" .empty {} ∧
    (∀ written make, .register written make ∈ porters → NeverMissing make) ∧
    Engine.name ∈ (initial.run porters).2.available ∧
    ∃ cause, (initial.run porters).2.create Engine.name strict = .error cause ∧
      cause.kind ≠ "EngineNotAvailableError" := by
  obtain ⟨hserves, hnames, hreplies, -, -, hkinds⟩ := replies_of_history
  have hlists : Lists ["acl", "porter"] (opening :: porters) := by
    refine ⟨by decide +kernel, fun name => ?_⟩
    rw [exists_registered_iff, List.mem_cons, List.mem_singleton]
    refine or_congr Iff.rfl ⟨?_, ?_⟩
    · rintro rfl
      exact ⟨"Porter", bearing "day", List.mem_cons_self, by decide +kernel⟩
    · rintro ⟨written, make, hmem, rfl⟩
      exact (registered_porters hmem).1
  have hporter : Newest "PORTER" (bearing "night") (opening :: porters) :=
    ⟨opening :: porters.take 3, "pOrTeR", porters.drop 4, rfl, by decide +kernel, by simp [porters]⟩
  have htables : Newest Engine.name Engine.make (opening :: porters) := by
    refine ⟨[], Engine.name, porters, rfl, rfl, fun other kind hmem => ?_⟩
    rw [(registered_porters hmem).1, lowercase_name]
    decide +kernel
  have hnever : ∀ written make, .register written make ∈ porters → NeverMissing make := by
    intro written make hmem config parts cause h
    obtain rfl | rfl := (registered_porters hmem).2 <;> cases h
  have hlisted : Engine.name ∈ (initial.run porters).2.available := (hnames porters _).2 (.inl rfl)
  have hcreate : (initial.run porters).2.create Engine.name strict =
      .error (.configuration (.defaultAllow (.ofText "no"))) :=
    (hserves porters).built _ _ strict {} (((hserves porters).newest _ _).2 htables)
  have hbuilt : (initial.run porters).2.create "PORTER" = bearing "night" .empty {} :=
    (hserves porters).built _ _ .empty {} (((hserves porters).newest _ _).2 hporter)
  exact ⟨(hreplies porters .available [] _).2 (.listed hlists), hbuilt, hnever, hlisted, _, hcreate,
    hkinds porters hnever _ hlisted strict {} _ hcreate⟩

end Registry

end RoleGate
