import SmartClock.Net.Receive

/-!
# A response and its prefixes

A response of the proxy's server: status line and headers with the body's length, a blank
line, the body. While a transfer delivers a prefix of it, the loop learns the length when
the blank line has arrived and stops when the body has (`receive_part`).
-/

namespace SmartClock.Net

open Text

/-- The parts of a response: what stands before the length, what stands behind it up to the
blank line, the body. -/
structure HttpText where
  before : List UInt8
  after : List UInt8
  body : CStr

namespace HttpText

def header (r : HttpText) : List UInt8 :=
  r.before ++ contentLengthKey ++ numeral r.body.1.length ++ r.after

def text (r : HttpText) : List UInt8 := r.header ++ blankLine ++ r.body.1

end HttpText

/-- The first blank line ends the header, the first length is the body's. -/
structure HttpResponse extends HttpText where
  clean : 0 ∉ toHttpText.header
  blank : find blankLine toHttpText.text = some toHttpText.header.length
  length : find contentLengthKey toHttpText.text = some before.length
  ends : ∀ c ∈ after.head?, isDigit c = false

namespace HttpResponse

variable (r : HttpResponse)

/-- The offset of the body. -/
def headerSize : Nat := r.header.length + 4

theorem length_text : r.text.length = r.headerSize + r.body.1.length := by
  simp [HttpText.text, headerSize, blankLine, ascii]
  omega

theorem zero_not_mem_text : 0 ∉ r.text := by
  simp only [HttpText.text, List.mem_append, not_or]
  exact ⟨⟨r.clean, by decide⟩, r.body.2⟩

theorem drop_headerSize : r.text.drop r.headerSize = r.body.1 := by
  have size : r.headerSize = (r.header ++ blankLine).length := by simp [headerSize, blankLine, ascii]
  rw [HttpText.text, size, List.drop_left]

/-- Behind the length's digits comes no further digit. -/
theorem drop_length : ∃ c rest, isDigit c = false ∧
    (r.header ++ blankLine).drop (r.before.length + 16) = numeral r.body.1.length ++ c :: rest := by
  have front : (r.header ++ blankLine).drop (r.before.length + 16) =
      numeral r.body.1.length ++ (r.after ++ blankLine) := by
    have size : r.before.length + 16 = (r.before ++ contentLengthKey).length := by
      simp [contentLengthKey, ascii]
    have parts : r.header ++ blankLine =
        (r.before ++ contentLengthKey) ++ (numeral r.body.1.length ++ (r.after ++ blankLine)) := by
      simp [HttpText.header]
    rw [size, parts, List.drop_left]
  cases tail : r.after with
  | nil => exact ⟨13, _, by decide, by rw [front, tail]; rfl⟩
  | cons c rest => exact ⟨c, rest ++ blankLine, r.ends c (by simp [tail]), by rw [front, tail]; rfl⟩

/-! ## Prefixes -/

variable {r} {data : List UInt8}

theorem upToZero_part (h : data <+: r.text) : (upToZero data).1 = data :=
  upToZero_of_no_zero fun inside => r.zero_not_mem_text (h.subset inside)

/-- Before the blank line has arrived there is none. -/
theorem find_blank_short (h : data <+: r.text) (short : data.length < r.headerSize) :
    find blankLine data = none := by
  rw [List.prefix_iff_eq_take.1 h, find_take (by decide), r.blank,
    Option.filter_some_neg]
  simp [headerSize, blankLine, ascii] at short ⊢
  omega

theorem find_blank_long (h : data <+: r.text) (long : r.headerSize ≤ data.length) :
    find blankLine data = some r.header.length := by
  rw [List.prefix_iff_eq_take.1 h, find_take (by decide), r.blank, Option.filter_some_pos]
  simp [headerSize, blankLine, ascii] at long ⊢
  omega

theorem find_length_long (h : data <+: r.text) (long : r.headerSize ≤ data.length) :
    find contentLengthKey data = some r.before.length := by
  rw [List.prefix_iff_eq_take.1 h, find_take (by decide), r.length, Option.filter_some_pos]
  have key : contentLengthKey.length = 16 := by decide
  simp only [headerSize, HttpText.header, List.length_append] at long
  simp only [decide_eq_true_eq]
  omega

/-- The length is read once its line is complete. -/
theorem atoi_long (h : data <+: r.text) (long : r.headerSize ≤ data.length) :
    atoi (data.drop (r.before.length + 16)) = saturate r.body.1.length := by
  have size : r.headerSize = (r.header ++ blankLine).length := by simp [headerSize, blankLine, ascii]
  have header : r.header ++ blankLine <+: data :=
    List.prefix_of_prefix_length_le (List.prefix_append _ _) h (size ▸ long)
  obtain ⟨more, rfl⟩ := header
  obtain ⟨c, rest, stop, line⟩ := r.drop_length
  have inside : r.before.length + 16 ≤ (r.header ++ blankLine).length := by
    have key : contentLengthKey.length = 16 := by decide
    simp only [HttpText.header, List.length_append]
    omega
  rw [List.drop_append_of_le_length inside, line, List.append_assoc, List.cons_append,
    atoi_numeral_nat _ stop]

/-! ## The loop on a transfer of the response -/

/-- `content_length` when `n` bytes have arrived. -/
def lengthKnown (r : HttpResponse) (n : Nat) : Int := if r.headerSize ≤ n then r.body.1.length else -1

theorem allReceived_text (small : (r.text.length : Int) ≤ intMax) (n : Nat) :
    allReceived (r.header.length + 4) n r.body.1.length = .ok (decide (r.text.length ≤ n)) := by
  have whole := r.length_text
  have offset : r.headerSize = r.header.length + 4 := rfl
  have low : intMin ≤ 0 := by decide
  rw [allReceived, if_pos ⟨by omega, by omega⟩]
  congr 1
  rw [decide_eq_decide]
  omega

/-- The pass behind a `recv`, when a prefix has arrived. -/
theorem checkLength_part (h : data <+: r.text) (small : (r.text.length : Int) ≤ intMax) {old : Int}
    (known : old = -1 ∨ old = r.body.1.length ∧ r.headerSize ≤ data.length) :
    checkLength (upToZero data) data.length old =
      .ok (r.lengthKnown data.length, decide (r.text.length ≤ data.length)) := by
  unfold checkLength
  rw [upToZero_part h]
  by_cases long : r.headerSize ≤ data.length
  · have saturated : saturate r.body.1.length = r.body.1.length := by
      have whole := r.length_text
      have low : intMin ≤ 0 := by decide
      rw [saturate]
      omega
    rw [find_blank_long h long, find_length_long h long, lengthKnown, if_pos long]
    dsimp only
    rw [atoi_long h long, saturated, allReceived_text small]
    rcases known with rfl | ⟨rfl, -⟩
    · rfl
    · rw [if_neg (by omega), allReceived_text small]
      rfl
  · obtain rfl : old = -1 := known.resolve_right fun h => long h.2
    have more : ¬ r.text.length ≤ data.length := by
      have whole := r.length_text
      omega
    rw [find_blank_short h (by omega), lengthKnown, if_neg long, decide_eq_false more]
    split
    · split
      · contradiction
      · rfl
    · rfl

/-- **A transfer of a prefix**, in any chunks: the loop ends without a fault, and the buffer
holds just what was delivered. -/
theorem receive_part {size : Nat} (fits : r.text.length < size) (small : (size : Int) ≤ intMax)
    (rounds : List Round) {s : RecvState size} (received : Received s data)
    (known : s.contentLength = r.lengthKnown data.length)
    (part : data ++ delivered rounds <+: r.text) :
    ∃ s', receive s rounds = .ok s' ∧ Received s' (data ++ delivered rounds) ∧
      s'.contentLength = r.lengthKnown (data ++ delivered rounds).length := by
  induction rounds generalizing s data with
  | nil => exact ⟨s, rfl, by simpa [delivered] using received, by simpa [delivered] using known⟩
  | cons round rounds ih =>
    cases arrived : round.chunk with
    | none =>
      have stops : arrives s round = none := by simp [arrives, arrived]
      have nothing : delivered (round :: rounds) = [] := by simp [delivered, arrived]
      rw [nothing, List.append_nil]
      exact ⟨s, receive_stop rounds stops, received, known⟩
    | some chunk =>
      have bytes : delivered (round :: rounds) = chunk.bytes ++ delivered rounds := by
        simp [delivered, arrived]
      rw [bytes, ← List.append_assoc] at part ⊢
      have here : data ++ chunk.bytes <+: r.text := (List.prefix_append _ _).trans part
      have positive := List.length_pos_iff.2 chunk.nonempty
      have bound := here.length_le
      have goes : arrives s round = some chunk := by
        have guard : s.total < size - 1 := by
          rw [received.total]
          rw [List.length_append] at bound
          omega
        rw [arrives, if_pos guard, arrived]
      have old : s.contentLength = -1 ∨
          s.contentLength = r.body.1.length ∧ r.headerSize ≤ (data ++ chunk.bytes).length := by
        rw [known, lengthKnown, List.length_append]
        split
        · exact .inr ⟨rfl, by omega⟩
        · exact .inl rfl
      have pass := @step_eq _ _ _ received chunk (.inl (by omega))
      rw [checkLength_part here (by omega) old] at pass
      obtain ⟨s', stepped, received', known'⟩ := pass
      by_cases all : r.text.length ≤ (data ++ chunk.bytes).length
      · -- nothing is left to deliver
        rw [decide_eq_true all] at stepped
        have rest : delivered rounds = [] := by
          have := part.length_le
          rw [List.length_append] at this
          exact List.length_eq_zero_iff.1 (by omega)
        rw [rest, List.append_nil]
        exact ⟨s', receive_done rounds goes stepped, received', known'⟩
      · rw [decide_eq_false all] at stepped
        rw [receive_more rounds goes stepped]
        exact ih received' known' part

end HttpResponse

end SmartClock.Net
