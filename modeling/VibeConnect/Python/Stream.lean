import VibeConnect.Python.Coroutine
import VibeConnect.Python.Text

/-! `asyncio.StreamReader`. Bytes reach the buffer in the chunks the transport
delivers; `readexactly` waits for enough of them, or fails at the end of the
stream with what it got. Only the concatenation of the chunks can be observed. -/
namespace Python.Stream
open Text Coroutine

structure StreamReader where
  buffer : Bytes
  incoming : List Bytes

/-- Everything the reader has not given out yet. -/
def StreamReader.content (reader : StreamReader) : Bytes := reader.buffer ++ reader.incoming.flatten

/-- Feed chunks until `count` bytes are buffered. A short stream answers with
the rest of it, which is dropped from the buffer. -/
def fill (count : Nat) (buffer : Bytes) : List Bytes → Except Bytes Bytes × StreamReader
  | [] => if count ≤ buffer.length then (.ok (buffer.take count), ⟨buffer.drop count, []⟩)
      else (.error buffer, ⟨[], []⟩)
  | chunk :: rest => if count ≤ buffer.length then
        (.ok (buffer.take count), ⟨buffer.drop count, chunk :: rest⟩)
      else fill count (buffer ++ chunk) rest

def StreamReader.readexactly (count : Nat) (reader : StreamReader) :
    Except Bytes Bytes × StreamReader := fill count reader.buffer reader.incoming

theorem fill_enough (count : Nat) (buffer : Bytes) (incoming : List Bytes)
    (enough : count ≤ (buffer ++ incoming.flatten).length) :
    (fill count buffer incoming).1 = .ok ((buffer ++ incoming.flatten).take count) ∧
      (fill count buffer incoming).2.content = (buffer ++ incoming.flatten).drop count := by
  induction incoming generalizing buffer with
  | nil =>
      have buffered : count ≤ buffer.length := by simpa using enough
      rw [fill, if_pos buffered]
      simp [StreamReader.content]
  | cons chunk rest ih =>
      rw [fill]
      by_cases buffered : count ≤ buffer.length
      · rw [if_pos buffered, List.take_append_of_le_length buffered,
          List.drop_append_of_le_length buffered]
        exact ⟨rfl, rfl⟩
      · have tail := ih (buffer ++ chunk) (by simpa using enough)
        rw [if_neg buffered]
        simpa [List.append_assoc] using tail

theorem fill_short (count : Nat) (buffer : Bytes) (incoming : List Bytes)
    (short : (buffer ++ incoming.flatten).length < count) :
    fill count buffer incoming = (.error (buffer ++ incoming.flatten), ⟨[], []⟩) := by
  induction incoming generalizing buffer with
  | nil =>
      have missing : ¬count ≤ buffer.length := by simpa using short
      rw [fill, if_neg missing]
      simp
  | cons chunk rest ih =>
      have missing : ¬count ≤ buffer.length := by
        simp only [List.length_append] at short
        omega
      rw [fill, if_neg missing, ih (buffer ++ chunk) (by simpa using short)]
      simp

/-- A long enough stream answers with its next bytes, however it was cut. -/
theorem readexactly_enough (reader : StreamReader) (head rest : Bytes)
    (content : reader.content = head ++ rest) :
    ∃ left, reader.readexactly head.length = (.ok head, left) ∧ left.content = rest := by
  have both := fill_enough head.length reader.buffer reader.incoming (by
    rw [← StreamReader.content, content]
    simp)
  rw [← StreamReader.content, content, List.take_left, List.drop_left] at both
  exact ⟨_, Prod.ext both.1 rfl, both.2⟩

theorem readexactly_short (reader : StreamReader) (count : Nat)
    (short : reader.content.length < count) :
    reader.readexactly count = (.error reader.content, ⟨[], []⟩) :=
  fill_short count reader.buffer reader.incoming short

theorem readexactly_ok (reader left : StreamReader) (count : Nat) (bytes : Bytes)
    (read : reader.readexactly count = (.ok bytes, left)) :
    bytes.length = count ∧ reader.content = bytes ++ left.content := by
  by_cases short : reader.content.length < count
  · rw [readexactly_short reader count short] at read
    simp at read
  · have both := fill_enough count reader.buffer reader.incoming (by
      rw [← StreamReader.content]
      omega)
    rw [← StreamReader.content] at both
    have answer : (fill count reader.buffer reader.incoming) = (.ok bytes, left) := read
    rw [answer] at both
    obtain ⟨taken, dropped⟩ := both
    cases taken
    refine ⟨by simp only [List.length_take]; omega, ?_⟩
    simp only at dropped
    rw [dropped, List.take_append_drop]

end Python.Stream
