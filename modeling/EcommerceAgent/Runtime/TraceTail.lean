/-
# The tail of the trace file

`JsonlTracer._write_event` of `agent/trace/tracer.py` and the two readers of its file in
`agent/trace/reader.py`: `_iter_trace_events` reads the text of the whole file,
`_iter_recent_trace_events` seeks in its bytes and gives up what it finds before the next line.
`json.loads` is a parameter; what is used of it is that it reads what `json.dumps` writes.
-/
import EcommerceAgent.Lib.JsonText
import EcommerceAgent.Lib.LineFile
import EcommerceAgent.Lib.Text
import EcommerceAgent.Lib.Utf8
import Mathlib.Data.List.DropRight

open EcommerceAgent.Lib EcommerceAgent.Lib.JsonText EcommerceAgent.Lib.LineFile

namespace EcommerceAgent.Runtime.TraceTail

/-! ### Writing -/

/-- A `TraceEvent`, every field as the value that is written. -/
structure TraceEvent where
  traceId : Json FloatText
  taskId : Json FloatText
  conversationId : Json FloatText
  eventType : Json FloatText
  agentName : Json FloatText
  latencyMs : Json FloatText
  tokenInput : Json FloatText
  tokenOutput : Json FloatText
  cost : Json FloatText
  error : Json FloatText
  metadata : Json FloatText

/-- An event with the time of the clock at which it is written. -/
structure Written where
  timestamp : String
  event : TraceEvent

/-- `payload` of `_write_event`. -/
def payload (w : Written) : Json FloatText :=
  .obj [
    ("timestamp", .str w.timestamp),
    ("trace_id", w.event.traceId),
    ("task_id", w.event.taskId),
    ("conversation_id", w.event.conversationId),
    ("event_type", w.event.eventType),
    ("agent_name", w.event.agentName),
    ("latency_ms", w.event.latencyMs),
    ("token_input", w.event.tokenInput),
    ("token_output", w.event.tokenOutput),
    ("cost", w.event.cost),
    ("error", w.event.error),
    ("metadata", w.event.metadata)]

/-- The text that an event adds to the file. -/
def lineOf (w : Written) : List Char := keepDumps (payload w) ++ ['\n']

/-- `_write_event`: the file after the event. -/
def writeEvent (file : List UInt8) (w : Written) : List UInt8 := file ++ Utf8.encode (lineOf w)

/-- The file after a sequence of events. -/
def fileOf (events : List Written) : List UInt8 := events.foldl writeEvent []

/-! ### Reading -/

/-- The universal newlines of a file that is opened as text. -/
def universalNewlines : List Char → List Char
  | [] => []
  | '\r' :: '\n' :: cs => '\n' :: universalNewlines cs
  | '\r' :: cs => '\n' :: universalNewlines cs
  | c :: cs => c :: universalNewlines cs

/-- The lines of `path.open("r", encoding="utf-8")`; malformed bytes raise. -/
def textLines (file : List UInt8) : Option (List (List Char)) :=
  (Utf8.decode file).map fun text => readlines '\n' (universalNewlines text)

section Readers

variable {β : Type*} (loads : List Char → Option β)

/-- A line is stripped and, unless it is blank, read; what `json.loads` refuses is skipped. -/
def parseLine (line : List Char) : Option β :=
  let line := Text.strip line
  if line = [] then none else loads line

/-- `_iter_trace_events`. -/
def iterTraceEvents (file : List UInt8) : Option (List β) :=
  (textLines file).map fun lines => lines.filterMap (parseLine loads)

/-- `_iter_recent_trace_events`. -/
def iterRecentTraceEvents (maxEvents maxBytes : ℕ) (file : List UInt8) : List β :=
  let lines := tailLines 10 maxBytes file
  let lines := if 0 < maxEvents then lines.rtake maxEvents else lines
  lines.filterMap fun rawLine => parseLine loads (Utf8.decodeReplace rawLine)

/-- The number of bytes of a line of text. -/
def lineSize (line : List Char) : ℕ := (Utf8.encode line).length

/-- The tail reader yields the last events among those of the full reader whose line lies in the
last bytes of the file. -/
def TailFaithful (maxEvents maxBytes : ℕ) (file : List UInt8) : Prop :=
  ∃ lines, textLines file = some lines ∧
    iterRecentTraceEvents loads maxEvents maxBytes file =
      ((inWindow lineSize maxBytes lines).filterMap (parseLine loads)).rtake maxEvents

/-- Where the lines of some events fill the window exactly, and others come before them, there
are more of them than events are asked for. -/
def WindowClear (maxEvents maxBytes : ℕ) (events : List Written) : Prop :=
  ∀ before rest, events = before ++ rest → before ≠ [] → (fileOf rest).length = maxBytes →
    maxEvents < rest.length

end Readers

/-! ### The lines of the file -/

lemma fileOf_eq (events : List Written) :
    fileOf events = (events.map fun w => Utf8.encode (lineOf w)).flatten := by
  have h : ∀ file, events.foldl writeEvent file =
      file ++ (events.map fun w => Utf8.encode (lineOf w)).flatten := by
    induction events with
    | nil => intro file; simp
    | cons w events ih =>
      intro file
      rw [List.foldl_cons, ih, List.map_cons, List.flatten_cons, writeEvent, List.append_assoc]
  exact h []

/-- A line has one line feed, its last character. -/
lemma isLine_lineOf (w : Written) : IsLine '\n' (lineOf w) :=
  ⟨keepDumps (payload w), fun h => (oneLine_keepDumps _ _ h).1 rfl, rfl⟩

/-- So have its bytes. -/
lemma isLine_encode_lineOf (w : Written) : IsLine 10 (Utf8.encode (lineOf w)) := by
  refine ⟨Utf8.encode (keepDumps (payload w)), fun h => ?_, ?_⟩
  · exact (oneLine_keepDumps _ _ (Utf8.lineFeed_mem_encode.mp h)).1 rfl
  · rw [lineOf, Utf8.encode_append]
    rfl

lemma universalNewlines_of_notMem {text : List Char} (h : '\r' ∉ text) :
    universalNewlines text = text := by
  induction text with
  | nil => rfl
  | cons c cs ih =>
    have hc : c ≠ '\r' := fun heq => h (by simp [heq])
    rw [universalNewlines.eq_def]
    split
    · rename_i heq
      cases heq
    · rename_i heq
      exact absurd (List.cons_eq_cons.mp heq).1 hc
    · rename_i heq
      exact absurd (List.cons_eq_cons.mp heq).1 hc
    · rename_i heq
      obtain ⟨rfl, rfl⟩ := List.cons_eq_cons.mp heq
      rw [ih (List.not_mem_of_not_mem_cons h)]

/-- The full reader sees one line for every event. -/
lemma textLines_fileOf (events : List Written) :
    textLines (fileOf events) = some (events.map lineOf) := by
  have hfile : fileOf events = Utf8.encode (events.map lineOf).flatten := by
    rw [fileOf_eq, Utf8.encode_flatten, List.map_map]
    rfl
  have hreturn : '\r' ∉ (events.map lineOf).flatten := by
    intro h
    obtain ⟨line, hline, hmem⟩ := List.mem_flatten.mp h
    obtain ⟨w, -, rfl⟩ := List.mem_map.mp hline
    rcases List.mem_append.mp hmem with hmem | hmem
    · exact (oneLine_keepDumps _ _ hmem).2 rfl
    · cases List.mem_singleton.mp hmem
  have hlines : ∀ line ∈ events.map lineOf, IsLine '\n' line := by
    intro line hline
    obtain ⟨w, -, rfl⟩ := List.mem_map.mp hline
    exact isLine_lineOf w
  rw [textLines, hfile, Utf8.decode_encode, Option.map_some, universalNewlines_of_notMem hreturn,
    readlines_flatten hlines]

/-- An object is written between braces. -/
lemma keepDumps_payload (w : Written) : ∃ body, keepDumps (payload w) = '{' :: (body ++ ['}']) :=
  ⟨_, by rw [payload, keepDumps, write]⟩

lemma strip_lineOf (w : Written) : Text.strip (lineOf w) = keepDumps (payload w) := by
  obtain ⟨body, hbody⟩ := keepDumps_payload w
  rw [lineOf, hbody, Text.strip, List.cons_append, List.dropWhile_cons_of_neg (by decide),
    ← List.cons_append, ← List.cons_append, List.rdropWhile_concat_pos _ _ _ (by decide),
    List.rdropWhile_concat_neg _ _ _ (by decide)]

/-! ### What the readers yield -/

section Yield

variable {β : Type*} (loads : List Char → Option β) {maxEvents maxBytes : ℕ}
  {events : List Written}

/-- The number of bytes that an event adds to the file. -/
def eventSize (w : Written) : ℕ := (Utf8.encode (lineOf w)).length

lemma eventSize_pos (w : Written) : 0 < eventSize w := (isLine_encode_lineOf w).length_pos

lemma length_fileOf (events : List Written) : (fileOf events).length =
    (events.map eventSize).sum := by
  rw [fileOf_eq, List.length_flatten, List.map_map]
  rfl

/-- What `json.loads` makes of the line of an event. -/
def readBack (w : Written) : Option β := loads (keepDumps (payload w))

lemma parseLine_lineOf (w : Written) : parseLine loads (lineOf w) = readBack loads w := by
  obtain ⟨body, hbody⟩ := keepDumps_payload w
  have hne : keepDumps (payload w) ≠ [] := by
    rw [hbody]
    exact List.cons_ne_nil _ _
  rw [parseLine, strip_lineOf, if_neg hne, readBack]

lemma filterMap_lineOf (events : List Written) :
    (events.map lineOf).filterMap (parseLine loads) = events.filterMap (readBack loads) := by
  have hread : parseLine loads ∘ lineOf = readBack loads := by
    funext w
    rw [Function.comp_apply, parseLine_lineOf]
  rw [List.filterMap_map, hread]

/-- The full reader yields every event that can be read. -/
theorem iterTraceEvents_fileOf (events : List Written) :
    iterTraceEvents loads (fileOf events) = some (events.filterMap (readBack loads)) := by
  rw [iterTraceEvents, textLines_fileOf, Option.map_some, filterMap_lineOf]

/-- The lines in the window are those of some events. -/
lemma inWindow_lineOf : inWindow lineSize maxBytes (events.map lineOf) =
    (inWindow eventSize maxBytes events).map lineOf :=
  inWindow_map lineOf events

lemma rtake_map {γ ν : Type*} (f : γ → ν) (l : List γ) (n : ℕ) :
    (l.map f).rtake n = (l.rtake n).map f := by
  rw [List.rtake, List.rtake, List.length_map, List.map_drop]

variable {loads}

/-- Where every event can be read, none is left out. -/
lemma map_some_filterMap (h : ∀ w ∈ events, (readBack loads w).isSome) :
    (events.filterMap (readBack loads)).map some = events.map (readBack loads) := by
  induction events with
  | nil => rfl
  | cons w events ih =>
    obtain ⟨v, hv⟩ := Option.isSome_iff_exists.mp (h w List.mem_cons_self)
    rw [List.filterMap_cons_some hv, List.map_cons, List.map_cons, hv,
      ih fun w' hw' => h w' (List.mem_cons_of_mem _ hw')]

/-- The tail reader yields the last of the events whose lines it reads. -/
lemma iterRecent_of_tailLines (hmax : 0 < maxEvents) {read : List Written}
    (hread : tailLines 10 maxBytes (fileOf events) = read.map fun w => Utf8.encode (lineOf w)) :
    iterRecentTraceEvents loads maxEvents maxBytes (fileOf events) =
      (read.rtake maxEvents).filterMap (readBack loads) := by
  have hraw : (fun rawLine => parseLine loads (Utf8.decodeReplace rawLine)) ∘
      (fun w => Utf8.encode (lineOf w)) = readBack loads := by
    funext w
    rw [Function.comp_apply, Utf8.decodeReplace_encode, parseLine_lineOf]
  rw [iterRecentTraceEvents, hread, if_pos hmax, rtake_map, List.filterMap_map, hraw]

/-- The tail reader is faithful exactly when the events that it reads last are those in the
window. -/
lemma tailFaithful_of_tailLines (hloads : ∀ w ∈ events, (readBack loads w).isSome)
    (hmax : 0 < maxEvents) {read : List Written} (hsublist : read.Sublist events)
    (hread : tailLines 10 maxBytes (fileOf events) = read.map fun w => Utf8.encode (lineOf w)) :
    TailFaithful loads maxEvents maxBytes (fileOf events) ↔
      (read.rtake maxEvents).map (readBack loads) =
        ((inWindow eventSize maxBytes events).rtake maxEvents).map (readBack loads) := by
  have hlines := textLines_fileOf events
  have hleft : ((read.rtake maxEvents).filterMap (readBack loads)).map some =
      (read.rtake maxEvents).map (readBack loads) := by
    refine map_some_filterMap fun w hw => hloads w (hsublist.subset ?_)
    exact List.mem_of_mem_drop hw
  have hright : ((((inWindow eventSize maxBytes events).filterMap (readBack loads))).rtake
      maxEvents).map some =
        ((inWindow eventSize maxBytes events).rtake maxEvents).map (readBack loads) := by
    rw [← rtake_map, map_some_filterMap fun w hw => hloads w ((inWindow_sublist events).subset hw),
      rtake_map]
  rw [TailFaithful, iterRecent_of_tailLines hmax hread, ← hleft, ← hright,
    (List.map_injective_iff.mpr (Option.some_injective β)).eq_iff]
  constructor
  · rintro ⟨lines, htext, heq⟩
    obtain rfl := Option.some.inj (hlines.symm.trans htext)
    rw [heq, inWindow_lineOf, filterMap_lineOf]
  · intro heq
    refine ⟨_, hlines, ?_⟩
    rw [heq, inWindow_lineOf, filterMap_lineOf]

/-- Without the first element the last `n` are the same only when there are more than `n`. -/
lemma rtake_tail_iff {γ ν : Type*} (f : γ → ν) {l : List γ} (hl : l ≠ []) (n : ℕ) :
    (l.tail.rtake n).map f = (l.rtake n).map f ↔ n < l.length := by
  obtain ⟨x, rest, rfl⟩ := List.exists_cons_of_ne_nil hl
  rw [List.tail_cons, List.rtake, List.rtake, List.length_cons]
  constructor
  · intro h
    have hlength := congrArg List.length h
    rw [List.length_map, List.length_map, List.length_drop, List.length_drop,
      List.length_cons] at hlength
    omega
  · intro h
    have hdrop : rest.length + 1 - n = (rest.length - n) + 1 := by omega
    rw [hdrop, List.drop_succ_cons]

/-- The tail reader loses only what lies outside of the window, unless the window begins with a
line that is among the events asked for. -/
theorem tailFaithful_iff (hloads : ∀ w ∈ events, (readBack loads w).isSome)
    (hmaxEvents : 0 < maxEvents) (hmaxBytes : 0 < maxBytes) :
    TailFaithful loads maxEvents maxBytes (fileOf events) ↔
      WindowClear maxEvents maxBytes events := by
  have hbytes : ∀ line ∈ events.map fun w => Utf8.encode (lineOf w), IsLine 10 line := by
    intro line hline
    obtain ⟨w, -, rfl⟩ := List.mem_map.mp hline
    exact isLine_encode_lineOf w
  have hin : inWindow List.length maxBytes (events.map fun w => Utf8.encode (lineOf w)) =
      (inWindow eventSize maxBytes events).map fun w => Utf8.encode (lineOf w) :=
    inWindow_map _ events
  -- where a rest of the events fills the window, it is what lies in it
  have hfill : ∀ before rest, events = before ++ rest → (fileOf rest).length = maxBytes →
      inWindow eventSize maxBytes events = rest := by
    rintro before rest rfl hrest
    rw [length_fileOf] at hrest
    exact inWindow_append (fun w _ => eventSize_pos w) hrest
  rcases tailLines_cases hbytes hmaxBytes with
    ⟨before, rest, hsplit, hbefore, hsize, hrest, hread⟩ | ⟨hno, hread⟩
  · obtain ⟨before, rest, rfl, rfl, rfl⟩ := List.map_eq_append_iff.mp hsplit
    have hexact : (fileOf rest).length = maxBytes := by
      rw [length_fileOf, ← hsize, List.map_map]
      rfl
    have hwindow := hfill before rest rfl hexact
    have hne : rest ≠ [] := by
      rintro rfl
      have hzero : maxBytes = 0 := hexact.symm
      omega
    rw [← fileOf_eq, ← List.map_tail] at hread
    have hsublist : rest.tail.Sublist (before ++ rest) :=
      (List.tail_sublist rest).trans (List.sublist_append_right _ _)
    rw [tailFaithful_of_tailLines hloads hmaxEvents hsublist hread, hwindow, rtake_tail_iff _ hne]
    constructor
    · intro h before' rest' hsplit' _ hexact'
      rw [← hfill before' rest' hsplit' hexact', hwindow]
      exact h
    · intro h
      exact h before rest rfl (by rintro rfl; exact hbefore rfl) hexact
  · rw [← fileOf_eq, hin] at hread
    rw [tailFaithful_of_tailLines hloads hmaxEvents (inWindow_sublist events) hread]
    refine iff_of_true rfl fun before rest hsplit hbefore hexact => ?_
    refine absurd ?_ (hno (before.map fun w => Utf8.encode (lineOf w))
      (rest.map fun w => Utf8.encode (lineOf w)) (by rw [hsplit, List.map_append]) (by simpa))
    rw [length_fileOf] at hexact
    rw [← hexact, List.map_map]
    rfl

end Yield

/-- The call of a tool, 282 bytes in the file. -/
def toolCall : Written where
  timestamp := "2026-01-01T08:00:00+00:00"
  event :=
    { traceId := .str "task-1", taskId := .str "task-1", conversationId := .null
      eventType := .str "tool_call", agentName := .null, latencyMs := .null
      tokenInput := .null, tokenOutput := .null, cost := .null, error := .null
      metadata := .obj [("note", .str "库存")] }

/-- `json.loads` on the line of `toolCall`. -/
def loadsToolCall (text : List Char) : Option (Json FloatText) :=
  if text = keepDumps (payload toolCall) then some (payload toolCall) else none

lemma readBack_toolCall : readBack loadsToolCall toolCall = some (payload toolCall) := by
  simp only [readBack, loadsToolCall, if_true]

lemma eventSize_toolCall : eventSize toolCall = 282 := by decide +kernel

/-- The window begins inside of the first line. -/
theorem tailFaithful_inside :
    TailFaithful loadsToolCall 8000 300 (fileOf [toolCall, toolCall]) := by
  refine (tailFaithful_iff ?_ (by decide) (by decide)).mpr ?_
  · intro w hw
    obtain rfl : w = toolCall := by simpa using hw
    rw [readBack_toolCall]
    rfl
  · intro before rest hsplit hbefore hexact
    have hall : ∀ w ∈ rest, eventSize w = 282 := by
      intro w hw
      have hmem : w ∈ [toolCall, toolCall] := hsplit ▸ List.mem_append_right _ hw
      obtain rfl : w = toolCall := by simpa using hmem
      exact eventSize_toolCall
    rw [length_fileOf, List.map_congr_left hall, List.map_const', List.sum_replicate_nat] at hexact
    omega

/-- The window begins with the last line, which is lost. -/
theorem not_tailFaithful_lineStart :
    ¬ TailFaithful loadsToolCall 8000 282 (fileOf [toolCall, toolCall]) := by
  have hloads : ∀ w ∈ [toolCall, toolCall], (readBack loadsToolCall w).isSome := by
    intro w hw
    obtain rfl : w = toolCall := by simpa using hw
    rw [readBack_toolCall]
    rfl
  have hread : tailLines 10 282 (fileOf [toolCall, toolCall]) = [] := by decide +kernel
  have hwindow : (inWindow eventSize 282 [toolCall, toolCall]).length = 1 := by decide +kernel
  have hnil : ([] : List Written).Sublist [toolCall, toolCall] := List.nil_sublist _
  rw [tailFaithful_of_tailLines hloads (by decide) hnil hread]
  intro heq
  have hlength := congrArg List.length heq
  rw [List.length_map, List.length_map, List.rtake, List.rtake, List.length_drop,
    List.length_drop, hwindow] at hlength
  cases hlength

end EcommerceAgent.Runtime.TraceTail
