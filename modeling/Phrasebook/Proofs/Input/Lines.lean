import Phrasebook.Proofs.Input.Encoding

/-! A stream of bytes as a source of lines. It is read chunk by chunk, whatever the chunks hold:
a chunk that is a text gives the text without the line ends after it, any other an error. So lines
that are written one after another, with either line end, are read back. -/
namespace Phrasebook.Input

theorem lineFeed_mem_utf8EncodeChar_iff {c : Char} :
    0x0A ∈ String.utf8EncodeChar c ↔ c = '\n' := by
  constructor
  · intro member
    by_cases small : c.toNat < 128
    · rw [utf8EncodeChar_of_small small] at member
      have same := congrArg UInt8.toNat (List.mem_singleton.1 member)
      simp only [UInt8.reduceToNat, UInt8.toNat_ofNat'] at same
      have code : c.val.toNat = ('\n').val.toNat := by
        show c.toNat = 10
        omega
      exact Char.ext (UInt32.toNat_inj.1 code)
    · exact absurd (high_of_mem_utf8EncodeChar (Nat.le_of_not_lt small) member) (by decide)
  · rintro rfl
    decide

theorem lineFeed_mem_encode_iff {text : Text} : 0x0A ∈ encode text ↔ '\n' ∈ text := by
  simp [encode, lineFeed_mem_utf8EncodeChar_iff]

/-- Bytes cut after every line feed. Only the last chunk may lack one, and then it is not empty. -/
inductive Chunked : Bytes → List Bytes → Prop
  | nil : Chunked [] []
  | last {body : Bytes} : body ≠ [] → 0x0A ∉ body → Chunked body [body]
  | cons {body rest : Bytes} {more : List Bytes} :
      0x0A ∉ body → Chunked rest more → Chunked (body ++ 0x0A :: rest) ((body ++ [0x0A]) :: more)

section Chunks

variable {bytes body rest : Bytes} {cs : List Bytes}

theorem chunks_plain (nonempty : body ≠ []) (plain : 0x0A ∉ body) : chunks body = [body] := by
  induction body with
  | nil => exact absurd rfl nonempty
  | cons b body ih =>
    obtain ⟨here, later⟩ := not_or.1 (mt List.mem_cons.2 plain)
    rw [chunks, if_neg (Ne.symm here)]
    cases body with
    | nil => rfl
    | cons c body => rw [ih (List.cons_ne_nil c body) later]

theorem chunks_lineFeed (plain : 0x0A ∉ body) :
    chunks (body ++ 0x0A :: rest) = (body ++ [0x0A]) :: chunks rest := by
  induction body with
  | nil => rfl
  | cons b body ih =>
    obtain ⟨here, later⟩ := not_or.1 (mt List.mem_cons.2 plain)
    rw [List.cons_append, chunks, if_neg (Ne.symm here), ih later]
    rfl

theorem cutLine_plain (plain : 0x0A ∉ body) : cutLine body = (body, []) := by
  induction body with
  | nil => rfl
  | cons b body ih =>
    obtain ⟨here, later⟩ := not_or.1 (mt List.mem_cons.2 plain)
    rw [cutLine, if_neg (Ne.symm here), ih later]

theorem cutLine_lineFeed (plain : 0x0A ∉ body) :
    cutLine (body ++ 0x0A :: rest) = (body ++ [0x0A], rest) := by
  induction body with
  | nil => rfl
  | cons b body ih =>
    obtain ⟨here, later⟩ := not_or.1 (mt List.mem_cons.2 plain)
    rw [List.cons_append, cutLine, if_neg (Ne.symm here), ih later]
    rfl

theorem Chunked.eq_chunks (h : Chunked bytes cs) : cs = chunks bytes := by
  induction h with
  | nil => rfl
  | last nonempty plain => exact (chunks_plain nonempty plain).symm
  | cons plain _ ih => rw [chunks_lineFeed plain, ih]

/-- By induction on the length: what follows the first line feed is shorter. -/
theorem exists_chunked (bytes : Bytes) : ∃ cs, Chunked bytes cs := by
  induction size : bytes.length using Nat.strongRecOn generalizing bytes with
  | ind size ih =>
    by_cases feed : 0x0A ∈ bytes
    · obtain ⟨body, rest, rfl, plain⟩ := List.eq_append_cons_of_mem feed
      obtain ⟨cs, chunked⟩ := ih rest.length (by simp at size; omega) rest rfl
      exact ⟨_, .cons plain chunked⟩
    · by_cases empty : bytes = []
      · exact ⟨[], empty ▸ .nil⟩
      · exact ⟨[bytes], .last empty feed⟩

theorem chunked_chunks (bytes : Bytes) : Chunked bytes (chunks bytes) := by
  obtain ⟨cs, chunked⟩ := exists_chunked bytes
  exact chunked.eq_chunks ▸ chunked

end Chunks

/-- What there is to read in a chunk: a text up to its longest ending of line ends, or an error
where there is no text. -/
inductive Reads : Bytes → Except InputError Text → Prop
  | line {line ending : Text} :
      (∀ c ∈ ending, c = '\n' ∨ c = '\r') →
      (∀ c, line.getLast? = some c → c ≠ '\n' ∧ c ≠ '\r') →
      Reads (encode (line ++ ending)) (.ok line)
  | invalid {chunk : Bytes} : (∀ text, encode text ≠ chunk) → Reads chunk (.error .invalidUtf8)

theorem readChunk_eq_iff {chunk : Bytes} {answer : Except InputError Text} :
    readChunk chunk = answer ↔ Reads chunk answer := by
  constructor
  · rintro rfl
    rw [readChunk]
    cases decoded : decode? chunk with
    | none =>
      refine .invalid fun text encoded => ?_
      cases decoded.symm.trans (decode?_eq_some_iff.2 encoded)
    | some text =>
      obtain ⟨ending, split, all, last⟩ := Text.dropEnd_eq_iff.1 (Eq.refl (Text.dropEnd isLineEnd text))
      rw [← decode?_eq_some_iff.1 decoded]
      conv => arg 1; rw [split]
      exact .line (fun c member => by simpa [isLineEnd] using all c member)
        (fun c found => by simpa [isLineEnd] using last c found)
  · rintro (⟨all, last⟩ | undecodable)
    · next line ending =>
      have read : Text.dropEnd isLineEnd (line ++ ending) = line :=
        Text.dropEnd_eq_iff.2 ⟨ending, rfl, fun c member => by simpa [isLineEnd] using all c member,
          fun c found => by simpa [isLineEnd] using last c found⟩
      rw [readChunk, decode?_eq_some_iff.2 rfl]
      exact congrArg Except.ok read
    · have none : decode? chunk = none :=
        Option.eq_none_iff_forall_ne_some.2 fun text decoded =>
          undecodable text (decode?_eq_some_iff.1 decoded)
      rw [readChunk, none]

/-- One read takes the first chunk, whatever it holds. -/
theorem readLine_chunked {bytes : Bytes} {cs : List Bytes} (h : Chunked bytes cs) :
    bytes = cs.head?.getD [] ++ (readLine bytes).2 ∧
      (readLine bytes).1 = cs.head?.map readChunk ∧ Chunked (readLine bytes).2 cs.tail := by
  cases h with
  | nil => exact ⟨rfl, rfl, .nil⟩
  | last nonempty plain =>
    simp only [readLine, cutLine_plain plain, if_neg nonempty]
    exact ⟨(List.append_nil bytes).symm, rfl, .nil⟩
  | cons plain more =>
    simp only [readLine, cutLine_lineFeed plain, List.append_eq_nil_iff, List.cons_ne_nil, and_false,
      if_false]
    exact ⟨by simp, rfl, more⟩

/-- The bytes that some reads leave. -/
def left (bytes : Bytes) : Nat → Bytes
  | 0 => bytes
  | n + 1 => (readLine (left bytes n)).2

/-- What the read after `n` others answers. -/
def answer (bytes : Bytes) (n : Nat) : Option (Except InputError Text) := (readLine (left bytes n)).1

section Answers

variable (bytes : Bytes) (n : Nat)

theorem left_chunked : Chunked (left bytes n) ((chunks bytes).drop n) := by
  induction n with
  | zero => exact chunked_chunks bytes
  | succ n ih => exact List.tail_drop ▸ (readLine_chunked ih).2.2

theorem left_eq : left bytes n = (chunks bytes)[n]?.getD [] ++ left bytes (n + 1) :=
  List.head?_drop ▸ (readLine_chunked (left_chunked bytes n)).1

theorem answer_eq : answer bytes n = (chunks bytes)[n]?.map readChunk :=
  List.head?_drop ▸ (readLine_chunked (left_chunked bytes n)).2.1

theorem left_of_length_le (past : (chunks bytes).length ≤ n) : left bytes n = [] := by
  have nothing := (left_chunked bytes n).eq_chunks
  rw [List.drop_of_length_le past] at nothing
  rw [← flatten_chunks (left bytes n), ← nothing]
  rfl

/-- The chunks as a list source answer as the stream does. -/
theorem next_chunks : next readChunk ((chunks bytes).drop n) =
    (answer bytes n, (chunks bytes).drop (n + 1)) := by
  rw [answer_eq, ← List.head?_drop, ← List.tail_drop]
  cases (chunks bytes).drop n <;> rfl

end Answers

inductive LineEnd where
  | lf
  | crlf
  deriving DecidableEq, Repr

/-- What a line end writes before its line feed. -/
def LineEnd.before : LineEnd → Text
  | .lf => []
  | .crlf => ['\r']

def LineEnd.text (ending : LineEnd) : Text := ending.before ++ ['\n']

/-- Lines, each with its line end, and what stands after the last line end. -/
def written : List (Text × LineEnd) → Text → Text
  | [], last => last
  | (line, ending) :: more, last => line ++ ending.text ++ written more last

/-- The lines that there are: no line stands after the last line end if nothing does. -/
def lines (ended : List (Text × LineEnd)) (last : Text) : List Text :=
  ended.map Prod.fst ++ if last = [] then [] else [last]

/-- A line with neither a line end in it nor a part of one at its end. -/
def Unbroken (line : Text) : Prop := '\n' ∉ line ∧ line.getLast? ≠ some '\r'

theorem Unbroken.reads {line ending : Text} (unbroken : Unbroken line)
    (all : ∀ c ∈ ending, c = '\n' ∨ c = '\r') : readChunk (encode (line ++ ending)) = .ok line :=
  readChunk_eq_iff.2 (.line all fun _ found =>
    ⟨fun same => unbroken.1 (same ▸ List.mem_of_getLast? found),
      fun same => unbroken.2 (same ▸ found)⟩)

theorem LineEnd.lineFeed_notMem_before (ending : LineEnd) : '\n' ∉ ending.before := by
  cases ending <;> decide

theorem LineEnd.mem_text {ending : LineEnd} {c : Char} (member : c ∈ ending.text) :
    c = '\n' ∨ c = '\r' := by
  cases ending <;> simp_all [text, before, or_comm]

section Written

variable {ended : List (Text × LineEnd)} {last : Text}

/-- Every line end ends a chunk, and nothing else does. -/
theorem written_chunked (unbroken : ∀ l ∈ ended, Unbroken l.1) (ends : Unbroken last) :
    Chunked (encode (written ended last))
      (ended.map (fun l => encode (l.1 ++ l.2.text)) ++ if last = [] then [] else [encode last]) := by
  induction ended with
  | nil =>
    have plain : 0x0A ∉ encode last := mt lineFeed_mem_encode_iff.1 ends.1
    by_cases empty : last = []
    · subst empty
      exact .nil
    · rw [if_neg empty]
      refine .last (fun none => empty ?_) plain
      exact Option.some.inj ((decode?_eq_some_iff.2 none).symm.trans (decode?_eq_some_iff.2 rfl))
  | cons l more ih =>
    obtain ⟨line, ending⟩ := l
    have plain : 0x0A ∉ encode (line ++ ending.before) := by
      rw [lineFeed_mem_encode_iff, List.mem_append, not_or]
      exact ⟨(unbroken _ List.mem_cons_self).1, ending.lineFeed_notMem_before⟩
    -- the chunk ends with the line feed of its line end, the first there is
    have feed : encode ['\n'] = [0x0A] := by decide
    have chunk : encode (line ++ ending.text) = encode (line ++ ending.before) ++ [0x0A] := by
      rw [LineEnd.text, ← List.append_assoc, encode_append, feed]
    have whole : encode (written ((line, ending) :: more) last) =
        encode (line ++ ending.before) ++ 0x0A :: encode (written more last) := by
      rw [written, encode_append, chunk, List.append_assoc]
      rfl
    rw [whole, List.map_cons, List.cons_append, chunk]
    exact .cons plain (ih fun l member => unbroken l (List.mem_cons_of_mem _ member))

theorem written_read (unbroken : ∀ l ∈ ended, Unbroken l.1) (ends : Unbroken last) :
    (chunks (encode (written ended last))).map readChunk = (lines ended last).map .ok := by
  rw [← (written_chunked unbroken ends).eq_chunks, lines, List.map_append, List.map_append,
    List.map_map, List.map_map]
  congr 1
  · refine List.map_congr_left fun l member => ?_
    exact (unbroken l member).reads fun _ => LineEnd.mem_text
  · split
    · rfl
    · have read : readChunk (encode (last ++ [])) = .ok last := ends.reads fun c none => nomatch none
      rw [List.append_nil] at read
      rw [List.map_singleton, List.map_singleton, read]

end Written

/-- Every chunk is answered in its place, and after them there is the end for ever. What was written
as lines is read as these lines. -/
theorem stream_reads_chunks :
    (∀ bytes : Bytes, Chunked bytes (chunks bytes) ∧ (∀ cs, Chunked bytes cs → cs = chunks bytes) ∧
      (∀ n chunk, (chunks bytes)[n]? = some chunk →
        left bytes n = chunk ++ left bytes (n + 1) ∧
        ∃ result, answer bytes n = some result ∧ ∀ r, Reads chunk r ↔ r = result) ∧
      (∀ n, (chunks bytes).length ≤ n → answer bytes n = none ∧ left bytes n = []) ∧
      (∀ n blank, (chunks bytes)[n]? = some (encode blank) → (∀ c ∈ blank, c = '\n' ∨ c = '\r') →
        answer bytes n = some (.ok [])) ∧
      ∀ n, next readChunk ((chunks bytes).drop n) = (answer bytes n, (chunks bytes).drop (n + 1))) ∧
    ∀ ended last, (∀ l ∈ ended, Unbroken l.1) → Unbroken last →
      ∀ n, answer (encode (written ended last)) n = (lines ended last)[n]?.map .ok := by
  refine ⟨fun bytes => ⟨chunked_chunks bytes, fun cs => Chunked.eq_chunks, fun n chunk at_ => ?_,
    fun n past => ⟨?_, left_of_length_le bytes n past⟩, fun n blank at_ all => ?_, next_chunks bytes⟩,
    fun ended last unbroken ends n => ?_⟩
  · refine ⟨?_, readChunk chunk, ?_, fun r => readChunk_eq_iff.symm.trans eq_comm⟩
    · conv => lhs; rw [left_eq, at_]
      rfl
    · rw [answer_eq, at_]
      rfl
  · rw [answer_eq, List.getElem?_eq_none past]
    rfl
  · rw [answer_eq, at_]
    have read : readChunk (encode ([] ++ blank)) = .ok [] :=
      readChunk_eq_iff.2 (.line all fun c none => nomatch none)
    exact congrArg some read
  · rw [answer_eq, ← List.getElem?_map, written_read unbroken ends, List.getElem?_map]

theorem blank_line_read :
    let stream := encode "first\r\nsecond\n\nlast".toList
    answer stream 0 = some (.ok "first".toList) ∧ answer stream 2 = some (.ok []) ∧
      answer stream 3 = some (.ok "last".toList) ∧ answer stream 4 = none := by
  have reads := stream_reads_chunks.2
    [("first".toList, .crlf), ("second".toList, .lf), ([], .lf)] "last".toList
    (by simp [Unbroken]) (by simp [Unbroken])
  exact ⟨reads 0, reads 2, reads 3, reads 4⟩

end Phrasebook.Input
