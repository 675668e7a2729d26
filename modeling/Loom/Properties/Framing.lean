import Loom.Driver.Framing
import Loom.JsonRoundTrip

/-!
# What `_read_message` returns

The results of successive calls depend on the bytes of the app-server only, not on how they come in
chunks: they are those of its lines, one after the other.  A line that `json.loads` raises another
error for than `JSONDecodeError` is the one that is not read as it should be.
-/

namespace Loom

namespace Framing

open JsonText

/-! ### Lines and their messages -/

/-- The lines of a stream, and what follows the last separator. -/
def splitLines : List UInt8 → List (List UInt8) × List UInt8
  | [] => ([], [])
  | byte :: rest =>
      if byte = newline then ([] :: (splitLines rest).1, (splitLines rest).2)
      else
        match splitLines rest with
        | ([], tail) => ([], byte :: tail)
        | (line :: lines, tail) => ((byte :: line) :: lines, tail)

section Reading

variable (parses : List UInt8 → Except Exc Dict) (limit : Nat) (tail : List UInt8)

/-- The result of a call, and the lines after it: blank lines are skipped, and a line that is too
long stays. -/
def next : List (List UInt8) → Except Exc Dict × List (List UInt8)
  | [] => (if limit < tail.length then .error tooLarge else .error unavailable, [])
  | line :: lines =>
      if limit < line.length then (.error tooLarge, line :: lines)
      else if isBlankLine (stripReturns line) then next lines
      else (parses line, lines)

/-- The results of successive calls, by the lines. -/
def resultsOf : Nat → List (List UInt8) → List (Except Exc Dict)
  | 0, _ => []
  | calls + 1, lines =>
      (next parses limit tail lines).1 :: resultsOf calls (next parses limit tail lines).2

end Reading

/-- The message of a line: every line that is none is malformed. -/
def messageOf (python : Python) (line : List UInt8) : Except Exc Dict :=
  match loads python (stripReturns line) with
  | .ok (.obj message) => .ok message
  | .ok _ | .error _ => .error protocolError

/-- However a stream comes in chunks, the results of successive calls are those of its lines. -/
def Frames (python : Python) (limit : Nat) (stream : List UInt8) : Prop :=
  ∀ (chunks : List Chunk), chunks.flatMap Subtype.val = stream → ∀ calls,
    results python limit calls [] chunks =
      resultsOf (messageOf python) limit (splitLines stream).2 calls (splitLines stream).1

/-- Before the first line that is too long, `json.loads` raises nothing but `JSONDecodeError`. -/
def Loadable (python : Python) (limit : Nat) (stream : List UInt8) : Prop :=
  ∀ line ∈ (splitLines stream).1.takeWhile fun line => line.length ≤ limit,
    isBlankLine (stripReturns line) = false → ∀ error,
    loads python (stripReturns line) = .error (.raises error) → error = protocolError

/-! ### Lines of a stream -/

theorem splitLines_line {line : List UInt8} (single : newline ∉ line) (rest : List UInt8) :
    splitLines (line ++ newline :: rest) = (line :: (splitLines rest).1, (splitLines rest).2) := by
  induction line with
  | nil => rfl
  | cons byte line ih =>
      have differs : byte ≠ newline := fun same => single (same ▸ List.mem_cons_self)
      rw [List.cons_append, splitLines, if_neg differs,
        ih fun isMem => single (List.mem_cons_of_mem _ isMem)]

theorem splitLines_single {line : List UInt8} (single : newline ∉ line) :
    splitLines line = ([], line) := by
  induction line with
  | nil => rfl
  | cons byte line ih =>
      have differs : byte ≠ newline := fun same => single (same ▸ List.mem_cons_self)
      rw [splitLines, if_neg differs, ih fun isMem => single (List.mem_cons_of_mem _ isMem)]

/-- The first line of a stream, or the whole of it, goes on from its front. -/
theorem splitLines_append {front : List UInt8} (single : newline ∉ front) (rest : List UInt8) :
    (∃ line lines, splitLines (front ++ rest) = ((front ++ line) :: lines, (splitLines rest).2)) ∨
      ∃ more, splitLines (front ++ rest) = ([], front ++ more) := by
  induction front with
  | nil =>
      cases split : splitLines rest with
      | mk lines tail =>
          cases lines with
          | nil => exact Or.inr ⟨tail, split⟩
          | cons line lines => exact Or.inl ⟨line, lines, split⟩
  | cons byte front ih =>
      have differs : byte ≠ newline := fun same => single (same ▸ List.mem_cons_self)
      rw [List.cons_append, splitLines, if_neg differs]
      rcases ih fun isMem => single (List.mem_cons_of_mem _ isMem) with
        ⟨line, lines, split⟩ | ⟨more, split⟩
      · rw [split]
        exact Or.inl ⟨line, lines, rfl⟩
      · rw [split]
        exact Or.inr ⟨more, rfl⟩

/-! ### Chunks do not matter -/

section Chunks

variable {python : Python} {limit : Nat}

/-- The result of a call on a stream, and the lines after it. -/
def nextOf (python : Python) (limit : Nat) (stream : List UInt8) :
    Except Exc Dict × List (List UInt8) :=
  next (parse python) limit (splitLines stream).2 (splitLines stream).1

theorem scan_stops {result : Except Exc Dict} {buffer : List UInt8} :
    ∀ {rest line : List UInt8}, newline ∉ line →
    scan python limit line rest = .stops result buffer → ∀ more,
    nextOf python limit (line ++ rest ++ more) = (result, (splitLines (buffer ++ more)).1) ∧
      (splitLines (line ++ rest ++ more)).2 = (splitLines (buffer ++ more)).2 := by
  intro rest
  induction rest with
  | nil =>
      intro line _ scanned
      cases scanned
  | cons byte rest ih =>
      intro line single scanned more
      unfold scan at scanned
      split at scanned
      · rename_i isNewline
        subst isNewline
        have split := splitLines_line single (rest ++ more)
        have joined : line ++ newline :: rest ++ more = line ++ newline :: (rest ++ more) := by
          rw [List.append_assoc, List.cons_append]
        unfold nextOf
        rw [joined, split]
        dsimp only
        unfold next
        split at scanned
        · rename_i isLong
          cases scanned
          rw [if_pos isLong, joined, split]
          exact ⟨rfl, rfl⟩
        · rename_i fits
          rw [if_neg fits]
          split at scanned
          · rename_i isBlank
            rw [if_pos isBlank]
            have later := ih List.not_mem_nil scanned more
            rw [List.nil_append] at later
            exact later
          · rename_i notBlank
            cases scanned
            rw [if_neg notBlank]
            exact ⟨rfl, rfl⟩
      · rename_i differs
        have single' : newline ∉ line ++ [byte] := by
          intro isMem
          rcases List.mem_append.1 isMem with isMem | isMem
          · exact single isMem
          · exact differs (List.mem_singleton.1 isMem).symm
        have later := ih single' scanned more
        rw [List.append_assoc line [byte] rest] at later
        exact later

theorem scan_more {buffer : List UInt8} :
    ∀ {rest line : List UInt8}, newline ∉ line → scan python limit line rest = .more buffer →
    newline ∉ buffer ∧ ∀ more,
      nextOf python limit (line ++ rest ++ more) = nextOf python limit (buffer ++ more) ∧
        (splitLines (line ++ rest ++ more)).2 = (splitLines (buffer ++ more)).2 := by
  intro rest
  induction rest with
  | nil =>
      intro line single scanned
      cases scanned
      refine ⟨single, fun more => ?_⟩
      rw [List.append_nil]
      exact ⟨rfl, rfl⟩
  | cons byte rest ih =>
      intro line single scanned
      unfold scan at scanned
      split at scanned
      · rename_i isNewline
        subst isNewline
        split at scanned
        · cases scanned
        · rename_i fits
          split at scanned
          · rename_i isBlank
            obtain ⟨left, later⟩ := ih List.not_mem_nil scanned
            refine ⟨left, fun more => ?_⟩
            have same := later more
            rw [List.nil_append] at same
            have joined : line ++ newline :: rest ++ more = line ++ newline :: (rest ++ more) := by
              rw [List.append_assoc, List.cons_append]
            rw [joined]
            refine ⟨?_, ?_⟩
            · rw [← same.1]
              unfold nextOf
              rw [splitLines_line single]
              dsimp only
              rw [next, if_neg fits, if_pos isBlank]
            · rw [← same.2, splitLines_line single]
          · cases scanned
      · rename_i differs
        have single' : newline ∉ line ++ [byte] := by
          intro isMem
          rcases List.mem_append.1 isMem with isMem | isMem
          · exact single isMem
          · exact differs (List.mem_singleton.1 isMem).symm
        obtain ⟨left, later⟩ := ih single' scanned
        refine ⟨left, fun more => ?_⟩
        have same := later more
        rw [List.append_assoc line [byte] rest] at same
        exact same

/-- A front that is too long makes its line, or the end of the stream, too long. -/
theorem nextOf_long {front : List UInt8} (single : newline ∉ front) (isLong : limit < front.length)
    (rest : List UInt8) :
    nextOf python limit (front ++ rest) = (.error tooLarge, (splitLines (front ++ rest)).1) := by
  unfold nextOf
  rcases splitLines_append single rest with ⟨line, lines, split⟩ | ⟨more, split⟩
  · rw [split]
    dsimp only
    rw [next, if_pos (by rw [List.length_append]; omega)]
  · rw [split]
    dsimp only
    rw [next, if_pos (by rw [List.length_append]; omega)]

/-- The bytes of chunks. -/
def bytesOf (chunks : List Chunk) : List UInt8 := chunks.flatMap Subtype.val

theorem readMessage_next : ∀ (chunks : List Chunk) (buffer : List UInt8),
    nextOf python limit (buffer ++ bytesOf chunks) =
        ((readMessage python limit buffer chunks).1,
          (splitLines ((readMessage python limit buffer chunks).2.1 ++
            bytesOf (readMessage python limit buffer chunks).2.2)).1) ∧
      (splitLines (buffer ++ bytesOf chunks)).2 =
        (splitLines ((readMessage python limit buffer chunks).2.1 ++
          bytesOf (readMessage python limit buffer chunks).2.2)).2 := by
  intro chunks
  induction chunks with
  | nil =>
      intro buffer
      unfold readMessage
      split
      · rename_i result left scanned
        have stops := scan_stops List.not_mem_nil scanned []
        rw [List.nil_append] at stops
        exact stops
      · rename_i left scanned
        obtain ⟨single, later⟩ := scan_more List.not_mem_nil scanned
        have same := later []
        rw [List.nil_append] at same
        change nextOf python limit (buffer ++ []) = _ ∧ _
        rw [same.1]
        split
        · rename_i isLong
          exact ⟨nextOf_long single isLong [], same.2⟩
        · rename_i fits
          refine ⟨?_, same.2⟩
          change nextOf python limit (left ++ []) = (_, (splitLines (left ++ [])).1)
          rw [List.append_nil]
          unfold nextOf
          rw [splitLines_single single]
          dsimp only
          rw [next, if_neg fits]
  | cons chunk chunks ih =>
      intro buffer
      unfold readMessage
      split
      · rename_i result left scanned
        have stops := scan_stops List.not_mem_nil scanned (bytesOf (chunk :: chunks))
        rw [List.nil_append] at stops
        exact stops
      · rename_i left scanned
        obtain ⟨single, later⟩ := scan_more List.not_mem_nil scanned
        have same := later (bytesOf (chunk :: chunks))
        rw [List.nil_append] at same
        rw [same.1, same.2]
        split
        · rename_i isLong
          exact ⟨nextOf_long single isLong _, rfl⟩
        · have more := ih (left ++ chunk.val)
          have joined : left ++ bytesOf (chunk :: chunks) =
              left ++ chunk.val ++ bytesOf chunks := by
            rw [List.append_assoc]
            rfl
          rw [joined]
          exact more

/-- The results of successive calls are those of the lines, however the stream comes in chunks. -/
theorem results_eq : ∀ (calls : Nat) (buffer : List UInt8) (chunks : List Chunk),
    results python limit calls buffer chunks =
      resultsOf (parse python) limit (splitLines (buffer ++ bytesOf chunks)).2 calls
        (splitLines (buffer ++ bytesOf chunks)).1 := by
  intro calls
  induction calls with
  | zero =>
      intro buffer chunks
      rfl
  | succ calls ih =>
      intro buffer chunks
      obtain ⟨read, sameTail⟩ := @readMessage_next python limit chunks buffer
      unfold nextOf at read
      rw [results, resultsOf, read, ih, ← sameTail]

end Chunks

/-! ### Two ways to read a line -/

theorem resultsOf_congr {left right : List UInt8 → Except Exc Dict} {limit : Nat}
    {tail : List UInt8} {lines : List (List UInt8)} {result : Except Exc Dict}
    (stays : next left limit tail lines = (result, lines))
    (stays' : next right limit tail lines = (result, lines)) (calls : Nat) :
    resultsOf left limit tail calls lines = resultsOf right limit tail calls lines := by
  induction calls with
  | zero => rfl
  | succ calls ih => rw [resultsOf, resultsOf, stays, stays', ih]

/-- Two ways to read a line agree on the results exactly if they agree on the lines that are
read. -/
theorem resultsOf_agree {left right : List UInt8 → Except Exc Dict} {limit : Nat}
    {tail : List UInt8} : ∀ (lines : List (List UInt8)),
    (∀ calls, resultsOf left limit tail calls lines = resultsOf right limit tail calls lines) ↔
      ∀ line ∈ lines.takeWhile fun line => line.length ≤ limit,
        isBlankLine (stripReturns line) = false → left line = right line := by
  intro lines
  induction lines with
  | nil =>
      constructor
      · intro _ line isMem
        cases isMem
      · intro _ calls
        exact resultsOf_congr rfl rfl calls
  | cons line lines ih =>
      by_cases isLong : limit < line.length
      · rw [List.takeWhile_cons_of_neg (by simpa using isLong)]
        constructor
        · intro _ line isMem
          cases isMem
        · intro _ calls
          have stays : ∀ parses, next parses limit tail (line :: lines) =
              (.error tooLarge, line :: lines) := fun _ => if_pos isLong
          exact resultsOf_congr (stays left) (stays right) calls
      · rw [List.takeWhile_cons_of_pos (by simpa using Nat.le_of_not_lt isLong)]
        by_cases isBlank : isBlankLine (stripReturns line) = true
        · have skips : ∀ (parses : List UInt8 → Except Exc Dict) calls,
              resultsOf parses limit tail calls (line :: lines) =
                resultsOf parses limit tail calls lines := by
            intro parses calls
            cases calls with
            | zero => rfl
            | succ calls => rw [resultsOf, resultsOf, next, if_neg isLong, if_pos isBlank]
          constructor
          · intro same other isMem notBlank
            rcases List.mem_cons.1 isMem with rfl | isMem
            · rw [isBlank] at notBlank
              cases notBlank
            · refine ih.1 (fun calls => ?_) other isMem notBlank
              rw [← skips left, ← skips right]
              exact same calls
          · intro same calls
            rw [skips, skips]
            exact ih.2 (fun other isMem => same other (List.mem_cons_of_mem _ isMem)) calls
        · have reads : ∀ (parses : List UInt8 → Except Exc Dict) calls,
              resultsOf parses limit tail (calls + 1) (line :: lines) =
                parses line :: resultsOf parses limit tail calls lines := by
            intro parses calls
            rw [resultsOf, next, if_neg isLong, if_neg isBlank]
          constructor
          · intro same other isMem notBlank
            rcases List.mem_cons.1 isMem with rfl | isMem
            · have first := same 1
              rw [reads, reads] at first
              exact (List.cons.inj first).1
            · refine ih.1 (fun calls => ?_) other isMem notBlank
              have more := same (calls + 1)
              rw [reads, reads] at more
              exact (List.cons.inj more).2
          · intro same calls
            cases calls with
            | zero => rfl
            | succ calls =>
                rw [reads, reads, same line List.mem_cons_self (Bool.eq_false_iff.2 isBlank),
                  ih.2 (fun other isMem => same other (List.mem_cons_of_mem _ isMem)) calls]

theorem parse_eq_iff {python : Python} {line : List UInt8} :
    parse python line = messageOf python line ↔ ∀ error,
      loads python (stripReturns line) = .error (.raises error) → error = protocolError := by
  unfold parse messageOf
  cases loaded : loads python (stripReturns line) with
  | ok json =>
      constructor
      · intro _ error impossible
        cases impossible
      · intro _
        cases json with
        | obj message => rfl
        | null => rfl
        | bool flag => rfl
        | int number => rfl
        | float number => rfl
        | str text => rfl
        | arr items => rfl
  | error failure =>
      cases failure with
      | malformed =>
          constructor
          · intro _ error impossible
            cases impossible
          · intro _
            rfl
      | raises error =>
          constructor
          · intro same other isRaised
            cases isRaised
            cases same
            rfl
          · intro same
            rw [same error rfl]

/-! ### Any stream -/

/-- A stream comes in chunks of one byte, for example. -/
theorem exists_chunks (stream : List UInt8) : ∃ chunks : List Chunk, bytesOf chunks = stream := by
  refine ⟨stream.map fun byte => ⟨[byte], List.cons_ne_nil _ _, by simp⟩, ?_⟩
  unfold bytesOf
  rw [List.flatMap_map]
  exact List.flatMap_singleton' stream

theorem frames_iff {python : Python} {limit : Nat} {stream : List UInt8} :
    Frames python limit stream ↔ Loadable python limit stream := by
  have agrees : Frames python limit stream ↔ ∀ calls,
      resultsOf (parse python) limit (splitLines stream).2 calls (splitLines stream).1 =
        resultsOf (messageOf python) limit (splitLines stream).2 calls (splitLines stream).1 := by
    constructor
    · intro frames calls
      obtain ⟨chunks, rfl⟩ := exists_chunks stream
      have read := @results_eq python limit calls [] chunks
      rw [List.nil_append] at read
      rw [← read]
      exact frames chunks rfl calls
    · rintro same chunks rfl calls
      have read := @results_eq python limit calls [] chunks
      rw [List.nil_append] at read
      rw [read]
      exact same calls
  rw [agrees, resultsOf_agree]
  unfold Loadable
  simp only [parse_eq_iff]

/-! ### What is sent is read back -/

section Sent

variable {python : Python} {limit : Nat}

/-- A message that `_send` writes in a line within the limit. -/
def Sendable (python : Python) (limit : Nat) (message : Dict) : Prop :=
  Writable python.floats python.depth (.obj message) ∧
    (encode (dumps python.floats (.obj message))).length ≤ limit

/-- The line of a message. -/
def lineOf (python : Python) (message : Dict) : List UInt8 :=
  encode (dumps python.floats (.obj message))

theorem lineOf_bounds {message : Dict} (sendable : Sendable python limit message) :
    ∀ byte ∈ lineOf python message, 32 ≤ byte.toNat ∧ byte.toNat ≤ 126 :=
  encode_bounds (printable_dumps _ sendable.1)

theorem newline_notMem {message : Dict} (sendable : Sendable python limit message) :
    newline ∉ lineOf python message := by
  intro isMem
  exact absurd (lineOf_bounds sendable _ isMem).1 (by decide)

theorem stripReturns_lineOf {message : Dict} (sendable : Sendable python limit message) :
    stripReturns (lineOf python message) = lineOf python message := by
  unfold stripReturns
  rw [List.rdropWhile_eq_self_iff]
  intro notEmpty isReturn
  have bounds := lineOf_bounds sendable _ (List.getLast_mem notEmpty)
  rw [of_decide_eq_true isReturn] at bounds
  exact absurd bounds.1 (by decide)

theorem lineOf_cons (message : Dict) : ∃ rest, lineOf python message = 123 :: rest := by
  cases message with
  | nil => exact ⟨_, rfl⟩
  | cons entry entries => exact ⟨_, rfl⟩

theorem parse_lineOf {message : Dict} (sendable : Sendable python limit message) :
    parse python (lineOf python message) = .ok message := by
  unfold parse
  rw [stripReturns_lineOf sendable]
  unfold lineOf
  rw [loads_dumps sendable.1]

theorem next_lineOf {message : Dict} (sendable : Sendable python limit message)
    (tail : List UInt8) (lines : List (List UInt8)) :
    next (parse python) limit tail (lineOf python message :: lines) = (.ok message, lines) := by
  have fits : ¬limit < (lineOf python message).length := Nat.not_lt.2 sendable.2
  have notBlank : ¬isBlankLine (stripReturns (lineOf python message)) = true := by
    rw [stripReturns_lineOf sendable]
    obtain ⟨rest, isCons⟩ := @lineOf_cons python message
    rw [isCons]
    intro isBlank
    have first := List.all_eq_true.1 isBlank 123 List.mem_cons_self
    revert first
    decide
  rw [next, if_neg fits, if_neg notBlank, parse_lineOf sendable]

theorem splitLines_sent : ∀ (messages : List Dict),
    (∀ message ∈ messages, Sendable python limit message) →
    splitLines (messages.flatMap (sent python)) = (messages.map (lineOf python), []) := by
  intro messages
  induction messages with
  | nil =>
      intro _
      rfl
  | cons message messages ih =>
      intro sendable
      rw [List.flatMap_cons]
      have joined : sent python message ++ messages.flatMap (sent python) =
          lineOf python message ++ newline :: messages.flatMap (sent python) := by
        unfold sent lineOf
        rw [List.append_assoc]
        rfl
      rw [joined, splitLines_line (newline_notMem (sendable message List.mem_cons_self)),
        ih fun other isMem => sendable other (List.mem_cons_of_mem _ isMem)]
      rfl

/-- What `_send` writes is read back, however it comes in chunks. -/
theorem results_sent (messages : List Dict)
    (sendable : ∀ message ∈ messages, Sendable python limit message) (chunks : List Chunk)
    (isSent : chunks.flatMap Subtype.val = messages.flatMap (sent python)) :
    results python limit messages.length [] chunks = messages.map .ok := by
  have read := @results_eq python limit messages.length [] chunks
  change bytesOf chunks = _ at isSent
  rw [List.nil_append, isSent, splitLines_sent messages sendable] at read
  rw [read]
  clear read isSent
  induction messages with
  | nil => rfl
  | cons message messages ih =>
      rw [List.length_cons, List.map_cons, List.map_cons, resultsOf,
        next_lineOf (sendable message List.mem_cons_self)]
      refine congrArg (Except.ok message :: ·) ?_
      exact ih fun other isMem => sendable other (List.mem_cons_of_mem _ isMem)

end Sent

/-- The results of `_read_message` are those of the lines of the stream, however it comes in chunks,
exactly if `json.loads` raises nothing but `JSONDecodeError` for the lines that are read; and what
`_send` writes is read back. -/
theorem framing_iff (python : Python) (limit : Nat) :
    (∀ stream, Frames python limit stream ↔ Loadable python limit stream) ∧
      ∀ messages : List Dict, (∀ message ∈ messages, Sendable python limit message) →
        ∀ chunks : List Chunk, chunks.flatMap Subtype.val = messages.flatMap (sent python) →
        results python limit messages.length [] chunks = messages.map .ok :=
  ⟨fun _ => frames_iff, results_sent⟩

/-- The text of the float `0.5`. -/
def halfToken : Token := ⟨false, ['0'], ['.', '5']⟩

/-- A Python that has the float `0.5`. -/
def halfPython : Python where
  floats :=
    { isDouble := fun value => value = 1 / 2
      repr := fun _ => halfToken
      read := fun token => if token = halfToken then some (1 / 2) else none
      read_repr := by
        rintro value rfl
        rfl
      shape := by
        rintro value rfl
        refine ⟨by decide, fun rest stops => ?_⟩
        cases rest with
        | nil => rfl
        | cons next rest =>
            rcases stops next rfl with rfl | rfl | rfl
            · rfl
            · rfl
            · rfl
      plain := by
        intro value _ char mem
        change char ∈ ['0', '.', '5'] at mem
        simp only [List.mem_cons, List.not_mem_nil, or_false] at mem
        rcases mem with rfl | rfl | rfl <;> decide }
  depth := 900
  foreign _ := .error .malformed

/-- A request and a notification. -/
def twoMessages : List Dict :=
  [[("id", .int 7), ("method", .str "turn/start"),
      ("params", .obj [("input", .arr [.str "Zoë\n", .null, .bool true]),
        ("share", .float (1 / 2))])],
    [("method", .str "turn/interrupt"), ("params", .obj [("count", .int (-12))])]]

theorem twoMessages_sendable : ∀ message ∈ twoMessages, Sendable halfPython 128 message := by
  intro message isMem
  have fits : ∀ message ∈ twoMessages,
      (encode (dumps halfPython.floats (.obj message))).length ≤ 128 := by decide +kernel
  refine ⟨?_, fits message isMem⟩
  simp only [twoMessages, List.mem_cons, List.not_mem_nil, or_false] at isMem
  have short : ∀ number ∈ [7, 12], (numeral number).length ≤ 4300 := by decide +kernel
  rcases isMem with rfl | rfl
  · exact ⟨by decide, short 7 (by decide), trivial,
      ⟨by decide, ⟨trivial, trivial, trivial, trivial⟩, rfl, trivial⟩, trivial⟩
  · exact ⟨by decide, trivial, ⟨by decide, short 12 (by decide), trivial⟩, trivial⟩

/-- The lines of the messages in three chunks, none of which ends with a line. -/
def threeChunks : List Chunk :=
  let stream := twoMessages.flatMap (sent halfPython)
  [⟨stream.take 40, by decide +kernel⟩, ⟨(stream.drop 40).take 100, by decide +kernel⟩,
    ⟨(stream.drop 40).drop 100, by decide +kernel⟩]

theorem twoMessages_loadable :
    Loadable halfPython 128 (twoMessages.flatMap (sent halfPython)) := by
  intro line isMem _ error raised
  rw [splitLines_sent twoMessages twoMessages_sendable] at isMem
  obtain ⟨message, isMessage, rfl⟩ :=
    List.mem_map.1 ((List.takeWhile_prefix _).subset isMem)
  have sendable := twoMessages_sendable message isMessage
  rw [stripReturns_lineOf sendable] at raised
  unfold lineOf at raised
  rw [loads_dumps sendable.1] at raised
  cases raised

/-- The messages are read back, and so is what comes in other chunks. -/
theorem framing_iff_split :
    Frames halfPython 128 (twoMessages.flatMap (sent halfPython)) ∧
      results halfPython 128 2 [] threeChunks = twoMessages.map .ok := by
  obtain ⟨frames, reads⟩ := framing_iff halfPython 128
  refine ⟨(frames _).2 twoMessages_loadable,
    reads twoMessages twoMessages_sendable threeChunks ?_⟩
  rw [threeChunks, List.flatMap_cons, List.flatMap_cons, List.flatMap_singleton,
    List.take_append_drop, List.take_append_drop]

/-- A Python that has no floats. -/
def plainPython : Python where
  floats :=
    { isDouble := fun _ => False
      repr := fun _ => ⟨false, [], []⟩
      read := fun _ => none
      read_repr := fun _ impossible => impossible.elim
      shape := fun _ impossible => impossible.elim
      plain := fun _ impossible => impossible.elim }
  depth := 900
  foreign _ := .error .malformed

/-- A line that is no UTF-8. -/
theorem undecodable_escapes :
    ¬∀ (python : Python) (limit : Nat) (stream : List UInt8), Frames python limit stream := by
  intro frames
  have loadable := frames_iff.1 (frames plainPython 16 [0xFF, newline])
  have loaded : loads plainPython (stripReturns [0xFF]) =
      .error (.raises (Exc.valueError "'utf-8' codec can't decode bytes")) := by
    rfl
  have same := loadable [0xFF] (by decide) (by decide) _ loaded
  cases same

end Framing

end Loom
