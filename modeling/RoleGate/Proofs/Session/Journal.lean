import RoleGate.Proofs.Session.Recall

/-!
# The journal of keys

A session answers from a recollection as it would answer without one, and as a session does that
only keeps the times of readings: with the same records as well. While no more keys are read than
can be remembered, an invalid key has one record in the whole journal, that of the request that was
the first to read it.

## Main definitions

* `Session.respond`, `Session.respondAll` — requests answered from a recollection.
* `Session.keysRead`, `Session.keysReadIn` — the keys that requests make a session read.
* `Session.responseAfter` — the response to a request that comes behind others.
* `firstReadings` — the keys that are read for the first time.

## Main statements

* `Session.run_eq_respondAll` — the two kinds of sessions respond alike.
* `Session.keyRecords_responseAfter` — the records of keys that a request leaves.
* `Session.journal_of_first_readings` — replies without history, and one record for an invalid key.
-/

namespace RoleGate

/-! ## Records of keys -/

deriving instance DecidableEq for Record

namespace Notice

variable {key : Text} {record : Record}

/-- The key that was read, if the notice says so. -/
def keyRead? : Notice → Option Text
  | keyRead key => some key
  | _ => none

/-- The keys that were read, in order. -/
def readings (notices : List Notice) : List Text :=
  notices.filterMap keyRead?

theorem ofFirstReading_eq_some_iff :
    ofFirstReading key = some record ↔
      ∃ fault, RuleKey.parse key = .invalid fault ∧
        record = ⟨.warning, .keys, fault.warning key⟩ := by
  rw [ofFirstReading]
  cases RuleKey.parse key <;> simp [RuleKey.fault?, eq_comm]

/-- Invalid keys have a record, and no others. -/
theorem isSome_ofFirstReading_iff :
    (ofFirstReading key).isSome = true ↔ (RuleKey.parse key).kind = .invalid := by
  rw [ofFirstReading]
  cases RuleKey.parse key with
  | plain s =>
    cases hs : s.signature <;> simp [RuleKey.fault?, RuleKey.kind, RuleKey.Kind.ofShape, hs]
  | exact | pattern | wildcard | invalid => simp [RuleKey.fault?, RuleKey.kind]

theorem channel_of_ofFirstReading (h : ofFirstReading key = some record) :
    record.channel = .keys := by
  obtain ⟨fault, -, rfl⟩ := ofFirstReading_eq_some_iff.1 h
  rfl

/-- The first letter in which warnings of faults of different kinds differ. -/
def letterOf : KeyFault → Char
  | .head _ => 'r'
  | .arguments _ => 'a'
  | .mixed _ => 'k'

theorem getElem?_warning (fault : KeyFault) (key : Text) :
    (fault.warning key)[9]? = some (letterOf fault) := by
  have hhead : ("Ignoring rule with malformed key " : Text)[9]? = some 'r' := by decide +kernel
  have harguments : ("Ignoring argument matchers of malformed key " : Text)[9]? = some 'a' := by
    decide +kernel
  have hmixed : ("Ignoring key " : Text)[9]? = some 'k' := by decide +kernel
  unfold KeyFault.warning
  cases fault with
  | head _ => exact (List.getElem?_append_left (by decide +kernel)).trans hhead
  | arguments _ => exact (List.getElem?_append_left (by decide +kernel)).trans harguments
  | mixed _ =>
    rw [List.append_assoc]
    exact (List.getElem?_append_left (by decide +kernel)).trans hmixed

/-- A warning names its key, so different keys have different warnings. -/
theorem warning_injective {fault fault' : KeyFault} {key key' : Text}
    (h : fault.warning key = fault'.warning key') : key = key' := by
  have hnamed : Text.inApostrophes key = Text.inApostrophes key' → key = key' :=
    fun hnames => List.append_cancel_right (List.cons.inj hnames).2
  have hletter : letterOf fault = letterOf fault' := by
    have hnine := congrArg (fun t : Text => t[9]?) h
    simpa only [getElem?_warning, Option.some.injEq] using hnine
  cases fault with
  | head _ =>
    cases fault' with
    | head _ => exact hnamed (List.append_cancel_left h)
    | arguments _ => cases hletter
    | mixed _ => cases hletter
  | arguments _ =>
    cases fault' with
    | head _ => cases hletter
    | arguments _ => exact hnamed (List.append_cancel_left h)
    | mixed _ => cases hletter
  | mixed _ =>
    cases fault' with
    | head _ => cases hletter
    | arguments _ => cases hletter
    | mixed _ => exact hnamed (List.append_cancel_left (List.append_cancel_right h))

/-- The record of a key is that of no other key. -/
theorem ofFirstReading_injective {key' : Text} (h : ofFirstReading key = some record)
    (h' : ofFirstReading key' = some record) : key = key' := by
  obtain ⟨fault, -, rfl⟩ := ofFirstReading_eq_some_iff.1 h
  obtain ⟨fault', -, hrecord⟩ := ofFirstReading_eq_some_iff.1 h'
  exact warning_injective (congrArg Record.message hrecord)

end Notice

/-! ## First readings -/

/-- The keys that are read for the first time, in order, where some were read before. -/
def firstReadings (before : List Text) : List Text → List Text
  | [] => []
  | key :: rest =>
    (if before.contains key then [] else [key]) ++ firstReadings (before ++ [key]) rest

variable {before reads : List Text} {key : Text} {record : Record}

theorem firstReadings_append (before first second : List Text) :
    firstReadings before (first ++ second) =
      firstReadings before first ++ firstReadings (before ++ first) second := by
  induction first generalizing before with
  | nil => rw [List.nil_append, List.append_nil, firstReadings, List.nil_append]
  | cons key rest ih =>
    rw [List.cons_append, firstReadings, firstReadings, ih, List.append_assoc, List.append_assoc]
    rfl

theorem mem_firstReadings : key ∈ firstReadings before reads ↔ key ∈ reads ∧ key ∉ before := by
  induction reads generalizing before with
  | nil => simp [firstReadings]
  | cons first rest ih =>
    rw [firstReadings, List.mem_append, ih]
    by_cases hfirst : first ∈ before <;> grind

theorem nodup_firstReadings (before reads : List Text) : (firstReadings before reads).Nodup := by
  induction reads generalizing before with
  | nil => exact List.nodup_nil
  | cons first rest ih =>
    have hrest : first ∉ firstReadings (before ++ [first]) rest := by simp [mem_firstReadings]
    rw [firstReadings]
    split
    · exact ih _
    · exact List.nodup_cons.2 ⟨hrest, ih _⟩

/-- Among the records of first readings an invalid key has one, and no more. -/
theorem count_firstReadings (h : Notice.ofFirstReading key = some record) :
    ((firstReadings before reads).filterMap Notice.ofFirstReading).count record =
      if key ∈ reads ∧ key ∉ before then 1 else 0 := by
  have hcount : ((firstReadings before reads).filterMap Notice.ofFirstReading).count record =
      (firstReadings before reads).count key := by
    rw [List.count_filterMap, List.count]
    refine List.countP_congr fun other _ => ?_
    simp only [beq_iff_eq]
    constructor
    · exact fun hother => Notice.ofFirstReading_injective hother h
    · rintro rfl
      exact h
  rw [hcount, (nodup_firstReadings before reads).count]
  simp only [mem_firstReadings]

/-- Fewer keys need no more room. -/
theorem card_le_of_append {bound : Nat} (h : (before ++ reads).toFinset.card ≤ bound) :
    before.toFinset.card ≤ bound := by
  rw [List.toFinset_append] at h
  exact le_trans (Finset.card_le_card Finset.subset_union_left) h

/-! ## Notices written down -/

/-- The record is about a key. -/
def Record.isOfKeys (r : Record) : Bool :=
  r.channel == .keys

theorem Record.isOfKeys_of_ofFirstReading (h : Notice.ofFirstReading key = some record) :
    record.isOfKeys = true := by
  rw [isOfKeys, Notice.channel_of_ofFirstReading h]
  rfl

theorem Record.count_filter_isOfKeys (h : Notice.ofFirstReading key = some record)
    (records : List Record) : (records.filter isOfKeys).count record = records.count record :=
  List.count_filter (isOfKeys_of_ofFirstReading h)

theorem KeyMemory.records_cons (m : KeyMemory) (n : Notice) (rest : List Notice) :
    m.records (n :: rest) =
      ((m.records [n]).1 ++ ((m.records [n]).2.records rest).1,
        ((m.records [n]).2.records rest).2) := by
  cases n <;> simp [records]

namespace Notice

theorem readings_cons (n : Notice) (rest : List Notice) :
    readings (n :: rest) = readings [n] ++ readings rest := by
  rw [readings, ← List.singleton_append, List.filterMap_append]
  rfl

end Notice

namespace Logbook

variable {b : Logbook} {m : KeyMemory}

theorem records_note (h : m.Mirrors b.memory.keys) (n : Notice) :
    (b.note n).records = b.records ++ (m.records [n]).1 ∧
      (m.records [n]).2.Mirrors (b.note n).memory.keys := by
  cases n with
  | keyRead key =>
    constructor
    · show b.records ++ b.news key = b.records ++ (Option.toList _ ++ [])
      rw [List.append_nil, news]
      by_cases hkey : key ∈ b.memory.keys
      · simp [hkey, (h.contains_iff key).2 hkey]
      · simp [hkey, mt (h.contains_iff key).1 hkey]
    · show (m.read key).Mirrors (b.memory.read key).2.keys
      rw [Recollection.keys_read]
      exact h.read key
  | checkFailed | accessFailed | operationSkipped | rowRefused | callRefused => exact ⟨rfl, h⟩

/-- A memory of times that has the same keys leaves the same records. -/
theorem records_after (h : m.Mirrors b.memory.keys) (notices : List Notice) :
    (b.after notices).records = b.records ++ (m.records notices).1 ∧
      (m.records notices).2.Mirrors (b.after notices).memory.keys := by
  induction notices generalizing b m with
  | nil => exact ⟨(List.append_nil _).symm, h⟩
  | cons n rest ih =>
    obtain ⟨hnote, hmirrors⟩ := records_note h n
    obtain ⟨hrest, hlater⟩ := ih hmirrors
    rw [KeyMemory.records_cons]
    refine ⟨?_, hlater⟩
    rw [hnote, List.append_assoc] at hrest
    exact hrest

theorem keyRecords_note (h : b.memory.Holds before) {n : Notice}
    (hroom : (before ++ Notice.readings [n]).toFinset.card ≤ KeyMemory.capacity) :
    (b.note n).records.filter Record.isOfKeys = b.records.filter Record.isOfKeys ++
        (firstReadings before (Notice.readings [n])).filterMap Notice.ofFirstReading ∧
      (b.note n).memory.Holds (before ++ Notice.readings [n]) := by
  cases n with
  | keyRead key =>
    refine ⟨?_, h.read hroom⟩
    show (b.records ++ b.news key).filter Record.isOfKeys =
      _ ++ ((if before.contains key then [] else [key]) ++ []).filterMap Notice.ofFirstReading
    rw [List.filter_append, List.append_nil, news]
    simp only [List.contains_iff_mem, h.mem_iff]
    split
    · rfl
    · cases hrecord : Notice.ofFirstReading key with
      | none => simp [hrecord]
      | some record => simp [hrecord, Record.isOfKeys_of_ofFirstReading hrecord]
  | checkFailed | accessFailed | operationSkipped | rowRefused | callRefused =>
    refine ⟨?_, ?_⟩
    · show (b.records ++ _).filter Record.isOfKeys = b.records.filter Record.isOfKeys ++ []
      rw [List.filter_append]
      rfl
    · exact (List.append_nil before).symm ▸ h

/-- While all keys are remembered, the records about keys are those of first readings. -/
theorem keyRecords_after (h : b.memory.Holds before) {notices : List Notice}
    (hroom : (before ++ Notice.readings notices).toFinset.card ≤ KeyMemory.capacity) :
    (b.after notices).records.filter Record.isOfKeys = b.records.filter Record.isOfKeys ++
        (firstReadings before (Notice.readings notices)).filterMap Notice.ofFirstReading ∧
      (b.after notices).memory.Holds (before ++ Notice.readings notices) := by
  -- What was read before grows with the notices, so the invariant is about both lists together.
  induction notices generalizing b before with
  | nil => exact ⟨(List.append_nil _).symm, (List.append_nil before).symm ▸ h⟩
  | cons n rest ih =>
    rw [Notice.readings_cons, ← List.append_assoc] at hroom
    obtain ⟨hnote, hholds⟩ := keyRecords_note h (card_le_of_append hroom)
    obtain ⟨hrest, hlater⟩ := ih hholds hroom
    rw [Notice.readings_cons, firstReadings_append, List.filterMap_append, ← List.append_assoc,
      ← List.append_assoc, ← hnote]
    exact ⟨hrest, hlater⟩

end Logbook

/-! ## Requests -/

namespace Session

/-- The session after a request, apart from what it remembers. -/
def next (s : Session) : Request → Session
  | .change c => { s with store := s.store.after c }
  | .question _ => s

/-- The session after requests in a row, apart from what it remembers. -/
def nextAll (s : Session) (requests : List Request) : Session :=
  requests.foldl next s

section

variable [Pattern.Machine]

/-- The response to a request from a recollection, and the recollection after it. -/
def respond (s : Session) (m : Recollection) : Request → Response × Recollection
  | .change c => (⟨(s.store.apply c).map fun made => .changed made.1, []⟩, m)
  | .question q =>
    let (answer, book) := (Recall.reply s.engine q).outcome ⟨m, []⟩
    (⟨answer, book.records⟩, book.memory)

/-- The responses to requests made one after the other, and the recollection after them. -/
def respondAll (s : Session) (m : Recollection) : List Request → List Response × Recollection
  | [] => ([], m)
  | r :: rest =>
    let (first, between) := s.respond m r
    let (others, last) := (s.next r).respondAll between rest
    (first :: others, last)

/-- The response to a request that comes behind others, if nothing was remembered before those. -/
def responseAfter (s : Session) (before : List Request) (r : Request) : Response :=
  ((s.nextAll before).respond (s.respondAll [] before).2 r).1

/-- The keys that a request makes the session read. -/
def keysRead (s : Session) : Request → List Text
  | .change _ => []
  | .question q => Notice.readings (s.engine.reply q).notices

/-- The keys that requests made one after the other make the session read. -/
def keysReadIn (s : Session) : List Request → List Text
  | [] => []
  | r :: rest => s.keysRead r ++ (s.next r).keysReadIn rest

variable {s : Session} {m : Recollection} {k : KeyMemory}

/-! ### Runs in two parts -/

theorem respondAll_append (s : Session) (m : Recollection) (before rest : List Request) :
    s.respondAll m (before ++ rest) =
      ((s.respondAll m before).1 ++
          ((s.nextAll before).respondAll (s.respondAll m before).2 rest).1,
        ((s.nextAll before).respondAll (s.respondAll m before).2 rest).2) := by
  induction before generalizing s m with
  | nil => rfl
  | cons r before ih =>
    simp only [List.cons_append, respondAll, ih]
    rfl

theorem length_respondAll (s : Session) (m : Recollection) (requests : List Request) :
    (s.respondAll m requests).1.length = requests.length := by
  induction requests generalizing s m with
  | nil => rfl
  | cons r rest ih => simp only [respondAll, List.length_cons, ih]

theorem keysReadIn_append (s : Session) (before rest : List Request) :
    s.keysReadIn (before ++ rest) = s.keysReadIn before ++ (s.nextAll before).keysReadIn rest := by
  induction before generalizing s with
  | nil => rfl
  | cons r before ih =>
    rw [List.cons_append, keysReadIn, ih, keysReadIn, List.append_assoc]
    rfl

/-- The response to a request stands in the list of all responses where the request stands. -/
theorem getElem?_respondAll (s : Session) (front behind : List Request) (r : Request) :
    (s.respondAll [] (front ++ r :: behind)).1[front.length]? = some (s.responseAfter front r) := by
  rw [respondAll_append, List.getElem?_append_right (by rw [length_respondAll]), length_respondAll,
    Nat.sub_self]
  rfl

/-! ### Replies -/

theorem respond_question (hm : m.Sound) (q : Question) :
    s.respond m (.question q) =
      (⟨(s.engine.reply q).answer, (Logbook.after ⟨m, []⟩ (s.engine.reply q).notices).records⟩,
        (Logbook.after ⟨m, []⟩ (s.engine.reply q).notices).memory) := by
  rw [respond, Recall.follows_reply s.engine q ⟨m, []⟩ hm]

theorem sound_respond (hm : m.Sound) (r : Request) : (s.respond m r).2.Sound := by
  cases r with
  | change c => exact hm
  | question q =>
    rw [respond_question hm]
    exact Logbook.sound_after hm _

theorem sound_respondAll (hm : m.Sound) (requests : List Request) :
    (s.respondAll m requests).2.Sound := by
  induction requests generalizing s m with
  | nil => exact hm
  | cons r rest ih => exact ih (sound_respond hm r)

/-- Replies do not depend on what is remembered. -/
theorem reply_respond (hm : m.Sound) (r : Request) :
    (s.respond m r).1.reply = (s.respond [] r).1.reply := by
  cases r with
  | change c => rfl
  | question q => rw [respond_question hm, respond_question .nil]

/-! ### Responses -/

/-- A session that keeps times only and has the same keys responds alike, and goes on with the same
keys. -/
theorem step_eq_respond (s : Session) (hm : m.Sound) (hk : k.Mirrors m.keys) (r : Request) :
    ∃ later, { s with memory := k }.step r =
        ((s.respond m r).1, { s.next r with memory := later }) ∧
      later.Mirrors (s.respond m r).2.keys := by
  cases r with
  | change c => exact ⟨k, rfl, hk⟩
  | question q =>
    have hbook : k.Mirrors (Logbook.mk m []).memory.keys := hk
    obtain ⟨hrecords, hlater⟩ := Logbook.records_after hbook (s.engine.reply q).notices
    rw [respond_question hm]
    refine ⟨_, ?_, hlater⟩
    rw [hrecords]
    rfl

/-- The two kinds of sessions respond alike to all requests. -/
theorem run_eq_respondAll (hm : m.Sound) (hk : k.Mirrors m.keys) (requests : List Request) :
    ({ s with memory := k }.run requests).1 = (s.respondAll m requests).1 := by
  induction requests generalizing s m k with
  | nil => rfl
  | cons r rest ih =>
    obtain ⟨later, hstep, hlater⟩ := step_eq_respond s hm hk r
    simp only [run, respondAll, hstep, ih (sound_respond hm r) hlater]

/-! ### Records of keys -/

theorem keyRecords_respond (hm : m.Sound) (hbefore : m.Holds before) {r : Request}
    (hroom : (before ++ s.keysRead r).toFinset.card ≤ KeyMemory.capacity) :
    (s.respond m r).1.records.filter Record.isOfKeys =
        (firstReadings before (s.keysRead r)).filterMap Notice.ofFirstReading ∧
      (s.respond m r).2.Holds (before ++ s.keysRead r) := by
  cases r with
  | change c => exact ⟨rfl, (List.append_nil before).symm ▸ hbefore⟩
  | question q =>
    have hbook : (Logbook.mk m []).memory.Holds before := hbefore
    rw [respond_question hm]
    exact Logbook.keyRecords_after hbook hroom

/-- While all keys are remembered, the records about keys in the whole journal are those of first
readings. -/
theorem keyRecords_respondAll (hm : m.Sound) (hbefore : m.Holds before) {requests : List Request}
    (hroom : (before ++ s.keysReadIn requests).toFinset.card ≤ KeyMemory.capacity) :
    ((s.respondAll m requests).1.flatMap Response.records).filter Record.isOfKeys =
        (firstReadings before (s.keysReadIn requests)).filterMap Notice.ofFirstReading ∧
      (s.respondAll m requests).2.Holds (before ++ s.keysReadIn requests) := by
  induction requests generalizing s m before with
  | nil => exact ⟨rfl, (List.append_nil before).symm ▸ hbefore⟩
  | cons r rest ih =>
    rw [keysReadIn, ← List.append_assoc] at hroom
    obtain ⟨hfirst, hbetween⟩ := keyRecords_respond hm hbefore (card_le_of_append hroom)
    obtain ⟨hothers, hlast⟩ := ih (sound_respond hm r) hbetween hroom
    rw [keysReadIn, firstReadings_append, List.filterMap_append, ← List.append_assoc, ← hfirst,
      ← hothers, ← List.filter_append]
    exact ⟨rfl, hlast⟩

/-- The records about keys that a request leaves are those of the keys that it is the first to
read. -/
theorem keyRecords_responseAfter {front behind : List Request} {r : Request}
    (hroom : (s.keysReadIn (front ++ r :: behind)).toFinset.card ≤ KeyMemory.capacity) :
    (s.responseAfter front r).records.filter Record.isOfKeys =
      (firstReadings (s.keysReadIn front) ((s.nextAll front).keysRead r)).filterMap
        Notice.ofFirstReading := by
  rw [keysReadIn_append, keysReadIn, ← List.append_assoc] at hroom
  have hupTo := card_le_of_append hroom
  have hfront := keyRecords_respondAll .nil .nil (card_le_of_append hupTo)
  exact (keyRecords_respond (sound_respondAll .nil front) hfront.2 hupTo).1

/-- A run that starts with nothing remembered. A session that remembers what keys say responds as
one that keeps the times of readings. Every reply is the one it would be with nothing remembered at
that moment. While no more keys are read than can be remembered, a request leaves one record of an
invalid key if it is the first to read it, and none otherwise; so the whole journal has one record
of every invalid key that is read. No other records are about keys, and different keys have
different ones. -/
theorem journal_of_first_readings (s : Session) (requests : List Request) :
    (s.respondAll [] requests).1 = ({ s with memory := {} }.run requests).1 ∧
    (∀ front r behind, requests = front ++ r :: behind →
      ({ s with memory := {} }.run requests).1[front.length]? = some (s.responseAfter front r) ∧
      (s.responseAfter front r).reply = ((s.nextAll front).respond [] r).1.reply) ∧
    ((s.keysReadIn requests).toFinset.card ≤ KeyMemory.capacity →
      (∀ front r behind, requests = front ++ r :: behind →
        (∀ key record, Notice.ofFirstReading key = some record →
          (s.responseAfter front r).records.count record =
            if key ∈ (s.nextAll front).keysRead r ∧ key ∉ s.keysReadIn front then 1 else 0) ∧
        ∀ record ∈ (s.responseAfter front r).records, record.channel = .keys →
          ∃ key, Notice.ofFirstReading key = some record) ∧
      ∀ key record, Notice.ofFirstReading key = some record →
        (({ s with memory := {} }.run requests).1.flatMap Response.records).count record =
          if key ∈ s.keysReadIn requests then 1 else 0) ∧
    (∀ key, (Notice.ofFirstReading key).isSome = true ↔ (RuleKey.parse key).kind = .invalid) ∧
    ∀ key key' record, Notice.ofFirstReading key = some record →
      Notice.ofFirstReading key' = some record → key = key' := by
  have hrun : ({ s with memory := {} }.run requests).1 = (s.respondAll [] requests).1 :=
    run_eq_respondAll .nil .empty requests
  rw [hrun]
  refine ⟨rfl, ?_, ?_, fun _ => Notice.isSome_ofFirstReading_iff,
    fun _ _ _ => Notice.ofFirstReading_injective⟩
  · rintro front r behind rfl
    exact ⟨getElem?_respondAll s front behind r, reply_respond (sound_respondAll .nil front) r⟩
  · intro hroom
    constructor
    · rintro front r behind rfl
      have hrecords := keyRecords_responseAfter hroom
      constructor
      · intro key record hrecord
        rw [← Record.count_filter_isOfKeys hrecord, hrecords, count_firstReadings hrecord]
      · intro record hmem hchannel
        have hfilter : record ∈ (s.responseAfter front r).records.filter Record.isOfKeys :=
          List.mem_filter.2 ⟨hmem, by simp [Record.isOfKeys, hchannel]⟩
        rw [hrecords] at hfilter
        obtain ⟨key, -, hrecord⟩ := List.mem_filterMap.1 hfilter
        exact ⟨key, hrecord⟩
    · intro key record hrecord
      have hrecords := (keyRecords_respondAll .nil .nil hroom).1
      rw [← Record.count_filter_isOfKeys hrecord, hrecords, count_firstReadings hrecord]
      simp

end

/-- A session with the same invalid key in two tables. -/
def twoDoors : Session where
  settings := {}
  resolver := .flat []
  store := Store.empty.run
    [.putTable "gate" (.mapping [(.text "open(", .text "porter")]),
      .putTable "door" (.mapping [(.text "open(", .text "porter"), (.text "shut", .text "porter")])]

/-- A porter. -/
def porter : Caller :=
  ⟨"ann", ["porter"], .empty⟩

/-- The porter asks whether a door may be opened. -/
def visit (door : Text) : Request :=
  .question (.judge porter door ⟨"open", none, some []⟩)

/-- The porter asks about one door, and about the other before and after its table is replaced. -/
def visits : List Request :=
  [visit "gate", .question (.canAccess porter "door"),
    .change (.putTable "door" (.mapping [(.text "open(", .text "clerk")])), visit "door"]

/-- The invalid key has a record when the first door is asked about, and none later. -/
theorem journal_of_first_readings_of_two_doors :
    (twoDoors.keysReadIn visits).toFinset.card ≤ KeyMemory.capacity ∧
      twoDoors.keysReadIn visits = (["open(", "open(", "shut", "open("] : List Text) ∧
      ∃ record, Notice.ofFirstReading "open(" = some record ∧
        (twoDoors.responseAfter [] (visit "gate")).records.count record = 1 ∧
        (twoDoors.responseAfter (visits.take 3) (visit "door")).records.count record = 0 ∧
        ((twoDoors.run visits).1.flatMap Response.records).count record = 1 := by
  have hreads : twoDoors.keysReadIn visits = (["open(", "open(", "shut", "open("] : List Text) := by
    decide +kernel
  have hroom : (twoDoors.keysReadIn visits).toFinset.card ≤ KeyMemory.capacity := by
    rw [hreads]
    exact (List.toFinset_card_le _).trans (by decide)
  obtain ⟨-, -, hjournal, hinvalid, -⟩ := journal_of_first_readings twoDoors visits
  obtain ⟨hsteps, hwhole⟩ := hjournal hroom
  obtain ⟨record, hrecord⟩ := Option.isSome_iff_exists.1 ((hinvalid "open(").2 (by decide +kernel))
  refine ⟨hroom, hreads, record, hrecord, ?_, ?_, ?_⟩
  · rw [(hsteps [] _ (visits.drop 1) rfl).1 _ record hrecord]
    exact if_pos (by decide +kernel)
  · rw [(hsteps (visits.take 3) _ [] rfl).1 _ record hrecord]
    exact if_neg (by decide +kernel)
  · have hread : ("open(" : Text) ∈ twoDoors.keysReadIn visits := by
      rw [hreads]
      exact List.mem_cons_self
    exact (hwhole _ record hrecord).trans (if_pos hread)

end Session

end RoleGate
