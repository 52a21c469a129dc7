import TokenEcho.Proofs.Token.Calls
import TokenEcho.Proofs.Token.Checked

/-!
# The largest source

Scanning is safe up to two bytes below the end of a word, and one byte more is too much. Below the
limit no counter overflows and every text that the lexer cuts out of its source is there, whichever
tokens are asked for and in whichever mode, since a reader anywhere in the source has counted no
more lines and columns than bytes, `Reader.Counted.counts`. Right above it the columns run out
before the bytes do, since they start at one, in a source of one-byte characters on one line.
-/

namespace TokenEcho

namespace Lexer

/-- Nothing goes wrong in a source. A run in either mode, and a step behind any calls, find with
checks what they find without; and wherever a reader stands, the next character has room, the text
since any earlier place can be cut out, and the counters are no larger than what has been read. -/
structure ScansSafely (source file : String) : Prop where
  run : ∀ strict, ((ofSource source file).withStrict strict).tokenizeChecked =
    .ok ((ofSource source file).withStrict strict).tokenize
  step : ∀ calls, ((ofSource source file).perform calls).2.nextChecked =
    .ok ((ofSource source file).perform calls).2.next
  walk : ∀ calls,
    (Reader.ofSource source file).Reaches ((ofSource source file).perform calls).2.reader
  room : ∀ c x after, (Reader.ofSource source file).Reaches c → c.read? = some (x, after) →
    c.position.HasRoom x
  cuts : ∀ c after, (Reader.ofSource source file).Reaches c → c.Reaches after →
    ∃ text, c.rest = text ++ after.rest ∧
      after.cutChecked c.position.offset = .ok (String.ofList text)
  counts : ∀ c, (Reader.ofSource source file).Reaches c →
    ∃ consumed, source.toList = consumed ++ c.rest ∧
      c.position.line.toNat + c.position.column.toNat - 2 ≤ consumed.length ∧
      consumed.length ≤ c.position.offset.toNat ∧
      c.position.offset.toNat ≤ source.utf8ByteSize

/-- The columns of a source run out, and its offsets do not. -/
structure ColumnOverflows (source file : String) : Prop where
  run : ∀ strict, ((ofSource source file).withStrict strict).tokenizeChecked = .error .overflow
  column : ∃ c x after, (Reader.ofSource source file).Reaches c ∧ c.read? = some (x, after) ∧
    x ≠ '\n' ∧ c.position.column.toNat + 1 = 2 ^ 32 ∧
    c.position.offset.toNat + x.utf8Size < 2 ^ 32

/-- Up to so many bytes all sources are safe, and with one byte more flat ones are not. -/
structure ExactLimit (limit : Nat) : Prop where
  safe : ∀ source file, source.utf8ByteSize ≤ limit → ScansSafely source file
  tight : ∀ source file, source.utf8ByteSize = limit + 1 → Text.IsFlat source.toList →
    ColumnOverflows source file
  exists_flat : ∃ source : String, source.utf8ByteSize = limit + 1 ∧ Text.IsFlat source.toList

/-! ### The walk of the lexer -/

theorem reaches_tokenAfter (l : Lexer) (start : Position) (first : Char) :
    l.reader.Reaches (l.tokenAfter start first).2.reader := by
  unfold tokenAfter
  split
  · rw [reader_string]
    exact (Reader.reaches_takeWhile _ _).trans (Reader.reaches_accept _ _)
  · split
    · exact Reader.reaches_takeWhile _ _
    · split
      · exact Reader.reaches_takeWhile _ _
      · exact .refl

theorem reaches_next (l : Lexer) : l.reader.Reaches l.next.2.reader := by
  have hskip := l.reader.reaches_takeWhile Text.isBlank
  unfold next
  dsimp only
  split
  · exact hskip
  · next first reader hread =>
      exact (hskip.read hread).trans (reaches_tokenAfter { l with reader } _ first)

theorem reaches_perform (l : Lexer) (calls : List Call) :
    l.reader.Reaches (l.perform calls).2.reader := by
  induction calls generalizing l with
  | nil => exact .refl
  | cons call calls ih =>
      cases call with
      | mode strict => exact ih (l.withStrict strict)
      | next => exact l.reaches_next.trans (ih l.next.2)

/-! ### Below the limit -/

theorem scansSafely_of_not_overflows {source file : String}
    (hfits : ¬ (Reader.ofSource source file).Overflows) : ScansSafely source file := by
  have hcounted := Reader.counted_ofSource source file
  refine ⟨?_, ?_, (ofSource source file).reaches_perform, ?_, ?_, ?_⟩
  · intro strict
    exact (tokenizeChecked_eq (l := (ofSource source file).withStrict strict) hcounted).trans
      (if_neg hfits)
  · intro calls
    have hpasses := ((ofSource source file).reaches_perform calls).passes hfits
    exact (checks_next (hcounted.of_passes hpasses)).eq_ok (mt hpasses.overflows_iff.2 hfits)
  · intro c x after hreaches hread
    have hpasses := hreaches.passes hfits
    exact Reader.hasRoom_of_read hread (mt hpasses.overflows_iff.2 hfits)
  · intro c after hreaches hlater
    have hpasses := hreaches.passes hfits
    have hpasses' := hlater.passes (mt hpasses.overflows_iff.2 hfits)
    obtain ⟨text, hrest, -⟩ := hpasses'.across
    exact ⟨text, hrest, Reader.cutChecked_of_passes (hcounted.of_passes hpasses) hpasses' hrest⟩
  · intro c hreaches
    have hpasses := hreaches.passes hfits
    have hcounts := (hcounted.of_passes hpasses).counts
    rw [hpasses.source] at hcounts
    rw [← Text.byteLength_toList]
    exact hcounts

/-! ### Above the limit -/

theorem columnOverflows_of_isFlat {source : String} (file : String)
    (hsize : source.utf8ByteSize = 2 ^ 32 - 1) (hflat : Text.IsFlat source.toList) :
    ColumnOverflows source file := by
  rw [← Text.byteLength_toList] at hsize
  constructor
  · intro strict
    have hover : (Reader.ofSource source file).Overflows :=
      Position.advanceAll?_start_of_isFlat hflat hsize
    exact (tokenizeChecked_eq (l := (ofSource source file).withStrict strict)
      (Reader.counted_ofSource source file)).trans (if_pos hover)
  · obtain hnil | ⟨before, x, hsource⟩ := List.eq_nil_or_concat' source.toList
    · rw [hnil] at hsize
      cases hsize
    · rw [hsource] at hflat hsize
      obtain ⟨hcolumn, hoffset⟩ := Position.column_full_of_isFlat hflat hsize
      have hfeed := (hflat x (List.mem_append_right _ (List.mem_singleton_self x))).1
      have hreaches := Reader.reaches_of_append (c := Reader.ofSource source file) hsource
      exact ⟨_, x, _, hreaches, rfl, hfeed, hcolumn, hoffset⟩

theorem exists_isFlat (n : Nat) :
    ∃ source : String, source.utf8ByteSize = n ∧ Text.IsFlat source.toList := by
  have hflat : Text.IsFlat (List.replicate n 'a') := by
    intro c hc
    obtain rfl := List.eq_of_mem_replicate hc
    decide
  refine ⟨String.ofList (List.replicate n 'a'), ?_, ?_⟩
  · rw [← Text.byteLength_toList, String.toList_ofList, hflat.byteLength_eq, List.length_replicate]
  · rw [String.toList_ofList]
    exact hflat

/-- **The largest source.** Two bytes below the end of a word is the most that all sources can have
without an overflow. -/
theorem exactLimit_two_below_word : ExactLimit (2 ^ 32 - 2) where
  safe _ file hsize := scansSafely_of_not_overflows (Reader.not_overflows_ofSource hsize file)
  tight _ file hsize hflat := columnOverflows_of_isFlat file hsize hflat
  exists_flat := exists_isFlat _

theorem scansSafely_open_string :
    "let é = \"a\n€".utf8ByteSize ≤ 2 ^ 32 - 2 ∧ ScansSafely "let é = \"a\n€" consoleName :=
  ⟨by decide, exactLimit_two_below_word.safe _ _ (by decide)⟩

end Lexer

end TokenEcho
