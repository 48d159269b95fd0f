import Marginalia.Proofs.SectionPass
import Mathlib.Data.List.SplitBy

/-!
# Sections are the blocks of a source

`Section.addLine` puts a line in front of sections and decides whether the first
section takes it. This file says what comes of all those decisions at once: the
lines are cut exactly where a comment follows code, and each block between two
cuts is one section, its comments in the docs and its other lines in the code.

The whole argument turns on one observation. Inside a block no comment comes
right after code, and "a comment stands only after comments" is transitive, so
what holds of neighbours holds of any two lines of the block: all its comments
come first. That is what makes the test of `addCode`, which looks at the docs
of the first section, a test of the kind of the next line.
-/

namespace Marginalia

namespace Text

theorem unlines_eq_nil {lines : List Text} : unlines lines = [] ↔ lines = [] := by
  cases lines <;> simp [unlines]

end Text

namespace Section

/-- Whether a section ends between two lines: a comment follows code. -/
def endsBetween (language : Language) (line next : Text) : Bool :=
  !language.isComment line && language.isComment next

/-- The lines of a source, cut wherever a section ends. Where there are no
lines there still is a block, and it is empty. -/
def blocks (language : Language) (lines : List Text) : List (List Text) :=
  match lines.splitBy fun line next => !endsBetween language line next with
  | [] => [[]]
  | block :: rest => block :: rest

/-- The number of places where a section ends. -/
def cuts (language : Language) (lines : List Text) : Nat :=
  (lines.zip lines.tail).countP fun (line, next) => endsBetween language line next

/-- The comment lines of a block. -/
def comments (language : Language) (block : List Text) : List Text :=
  block.filter fun line => language.isComment line

/-- The lines of a block that are no comments. -/
def codeLines (language : Language) (block : List Text) : List Text :=
  block.filter fun line => !language.isComment line

/-- The section that a block makes. -/
def ofBlock (language : Language) (block : List Text) : Section where
  docs := Text.unlines ((comments language block).map language.stripComment)
  code := Text.unlines (codeLines language block)

/-! ## Blocks, line by line

`List.splitBy` works with an accumulator. Its own characterisation, by which
the blocks are the only list with four properties, gives the equations that an
induction over the lines needs. -/

theorem exists_splitBy_cons (r : Text → Text → Bool) (line : Text) (rest : List Text) :
    ∃ block others, (line :: rest).splitBy r = (line :: block) :: others := by
  have hne : line :: rest ≠ [] := List.cons_ne_nil line rest
  obtain ⟨first, others, heq⟩ := List.exists_cons_of_ne_nil (List.splitBy_ne_nil (r := r).2 hne)
  have hfirst : first ≠ [] := List.ne_nil_of_mem_splitBy (r := r) (l := line :: rest) (by simp [heq])
  obtain ⟨head, block, rfl⟩ := List.exists_cons_of_ne_nil hfirst
  have hflat := List.flatten_splitBy r (line :: rest)
  rw [heq, List.flatten_cons, List.cons_append] at hflat
  obtain ⟨rfl, _⟩ := List.cons.inj hflat
  exact ⟨block, others, heq⟩

theorem splitBy_cons_of_related {r : Text → Text → Bool} {line next : Text} {rest : List Text}
    {block : List Text} {others : List (List Text)} (hr : r line next = true)
    (h : (next :: rest).splitBy r = (next :: block) :: others) :
    (line :: next :: rest).splitBy r = (line :: next :: block) :: others := by
  obtain ⟨hflat, hnil, hchain, hends⟩ := List.splitBy_eq_iff.1 h
  refine List.splitBy_eq_iff.2 ⟨?_, ?_, ?_, ?_⟩
  · rw [hflat]; rfl
  · simpa using hnil
  · intro m hm
    rcases List.mem_cons.1 hm with rfl | hm
    · exact List.isChain_cons_cons.2 ⟨hr, hchain _ (List.mem_cons_self ..)⟩
    · exact hchain m (List.mem_cons_of_mem _ hm)
  · cases others with
    | nil => exact List.isChain_singleton _
    | cons second others =>
        obtain ⟨⟨_, hb, hlast⟩, hrest⟩ := List.isChain_cons_cons.1 hends
        refine List.isChain_cons_cons.2 ⟨⟨List.cons_ne_nil _ _, hb, ?_⟩, hrest⟩
        rw [List.getLast_cons (List.cons_ne_nil next block)]
        exact hlast

theorem splitBy_cons_of_not_related {r : Text → Text → Bool} {line next : Text}
    {rest : List Text} (hr : r line next = false) :
    (line :: next :: rest).splitBy r = [line] :: (next :: rest).splitBy r :=
  List.splitBy_append_cons (l := [line]) rest fun x hx => by
    rw [List.getLast?_singleton, Option.mem_some_iff] at hx
    exact hx ▸ hr

theorem blocks_cons (language : Language) (line : Text) (rest : List Text) :
    blocks language (line :: rest) =
      (line :: rest).splitBy fun line next => !endsBetween language line next := by
  obtain ⟨block, others, heq⟩ :=
    exists_splitBy_cons (fun line next => !endsBetween language line next) line rest
  rw [blocks, heq]

@[simp] theorem blocks_singleton (language : Language) (line : Text) :
    blocks language [line] = [[line]] := rfl

theorem blocks_cons_of_ends {language : Language} {line next : Text} {rest : List Text}
    (h : endsBetween language line next = true) :
    blocks language (line :: next :: rest) = [line] :: blocks language (next :: rest) := by
  rw [blocks_cons, blocks_cons, splitBy_cons_of_not_related]
  rw [h, Bool.not_true]

theorem exists_blocks_of_joins {language : Language} {line next : Text}
    (h : endsBetween language line next = false) (rest : List Text) :
    ∃ block others, blocks language (next :: rest) = (next :: block) :: others ∧
      blocks language (line :: next :: rest) = (line :: next :: block) :: others := by
  obtain ⟨block, others, heq⟩ :=
    exists_splitBy_cons (fun line next => !endsBetween language line next) next rest
  refine ⟨block, others, ?_, ?_⟩
  · rw [blocks_cons, heq]
  · rw [blocks_cons, splitBy_cons_of_related _ heq]
    rw [h, Bool.not_false]

theorem exists_blocks_cons (language : Language) (line : Text) (rest : List Text) :
    ∃ block others, blocks language (line :: rest) = (line :: block) :: others := by
  rw [blocks_cons]
  exact exists_splitBy_cons _ line rest

/-! ## What a block looks like -/

/-- In a list of lines, whatever stands before a comment is a comment too. -/
def CommentsFirst (language : Language) (lines : List Text) : Prop :=
  lines.Pairwise fun line later =>
    language.isComment later = true → language.isComment line = true

theorem commentsFirst_of_mem_blocks {language : Language} {lines block : List Text}
    (h : block ∈ blocks language lines) : CommentsFirst language block := by
  cases lines with
  | nil =>
      rw [List.mem_singleton.1 h]
      exact List.Pairwise.nil
  | cons line rest =>
      rw [blocks_cons] at h
      let before (line later : Text) : Prop :=
        language.isComment later = true → language.isComment line = true
      have htrans : Trans before before before := ⟨fun h₁ h₂ hlater => h₁ (h₂ hlater)⟩
      refine List.IsChain.pairwise (List.IsChain.imp ?_ (List.isChain_of_mem_splitBy h))
      intro a b hab hb
      simpa [endsBetween, hb] using hab

/-- Lines that start with code are code throughout. -/
theorem comments_cons_of_code {language : Language} {line : Text} {lines : List Text}
    (hsorted : CommentsFirst language (line :: lines))
    (hline : language.isComment line = false) : comments language (line :: lines) = [] := by
  refine List.filter_eq_nil_iff.2 fun later hmem hlater => ?_
  rcases List.mem_cons.1 hmem with rfl | hmem
  · exact absurd hlater (by simp [hline])
  · have hbefore := (List.pairwise_cons.1 hsorted).1 later hmem hlater
    exact absurd hbefore (by simp [hline])

theorem comments_append_codeLines {language : Language} {lines : List Text}
    (hsorted : CommentsFirst language lines) :
    comments language lines ++ codeLines language lines = lines := by
  induction lines with
  | nil => rfl
  | cons line lines ih =>
      have hrest : CommentsFirst language lines := (List.pairwise_cons.1 hsorted).2
      cases hline : language.isComment line with
      | true => simpa [comments, codeLines, hline] using ih hrest
      | false =>
          have hnone := comments_cons_of_code hsorted hline
          have hall : codeLines language (line :: lines) = line :: lines := by
            simpa [comments, codeLines] using hnone
          rw [hnone, hall, List.nil_append]

theorem flatten_blocks (language : Language) (lines : List Text) :
    (blocks language lines).flatten = lines := by
  cases lines with
  | nil => rfl
  | cons line rest => rw [blocks_cons, List.flatten_splitBy]

theorem length_blocks (language : Language) (lines : List Text) :
    (blocks language lines).length = 1 + cuts language lines := by
  induction lines with
  | nil => rfl
  | cons line rest ih =>
      cases rest with
      | nil => rfl
      | cons next rest =>
          have hcuts : cuts language (line :: next :: rest) =
              cuts language (next :: rest) +
                if endsBetween language line next then 1 else 0 := by
            simp [cuts, List.countP_cons]
          cases hends : endsBetween language line next with
          | true =>
              rw [blocks_cons_of_ends hends, List.length_cons, ih, hcuts, if_pos hends]
              omega
          | false =>
              obtain ⟨block, others, hrest, hall⟩ :=
                exists_blocks_of_joins hends rest
              rw [hrest] at ih
              rw [hall, hcuts, if_neg (by simp [hends])]
              simpa using ih

/-- Every block but the first starts with a comment. -/
theorem exists_comment_of_mem_tail (language : Language) (lines : List Text) :
    ∀ block ∈ (blocks language lines).tail, ∃ line ∈ block, language.isComment line = true := by
  induction lines with
  | nil => simp [blocks]
  | cons line rest ih =>
      cases rest with
      | nil => simp
      | cons next rest =>
          obtain ⟨block, others, hrest⟩ := exists_blocks_cons language next rest
          rw [hrest, List.tail_cons] at ih
          cases hends : endsBetween language line next with
          | true =>
              rw [blocks_cons_of_ends hends, hrest, List.tail_cons]
              intro m hm
              rcases List.mem_cons.1 hm with rfl | hm
              · refine ⟨next, List.mem_cons_self .., ?_⟩
                simp only [endsBetween, Bool.and_eq_true] at hends
                exact hends.2
              · exact ih m hm
          | false =>
              obtain ⟨block', others', hrest', hall⟩ :=
                exists_blocks_of_joins hends rest
              obtain ⟨_, rfl⟩ := List.cons.inj (hrest.symm.trans hrest')
              rw [hall, List.tail_cons]
              exact ih

/-- Every block but the last has a line of code. -/
theorem exists_code_of_mem_dropLast (language : Language) (lines : List Text) :
    ∀ block ∈ (blocks language lines).dropLast,
      ∃ line ∈ block, language.isComment line = false := by
  induction lines with
  | nil => simp [blocks]
  | cons line rest ih =>
      cases rest with
      | nil => simp
      | cons next rest =>
          cases hends : endsBetween language line next with
          | true =>
              obtain ⟨block, others, hrest⟩ := exists_blocks_cons language next rest
              rw [hrest] at ih
              rw [blocks_cons_of_ends hends, hrest, List.dropLast_cons_cons]
              intro m hm
              rcases List.mem_cons.1 hm with rfl | hm
              · refine ⟨line, List.mem_singleton_self line, ?_⟩
                simp only [endsBetween, Bool.and_eq_true, Bool.not_eq_true'] at hends
                exact hends.1
              · exact ih m hm
          | false =>
              obtain ⟨block, others, hrest, hall⟩ :=
                exists_blocks_of_joins hends rest
              rw [hrest] at ih
              rw [hall]
              cases others with
              | nil => simp
              | cons second others =>
                  rw [List.dropLast_cons_cons] at ih ⊢
                  intro m hm
                  rcases List.mem_cons.1 hm with rfl | hm
                  · obtain ⟨code, hmem, hcode⟩ := ih _ (List.mem_cons_self ..)
                    exact ⟨code, List.mem_cons_of_mem _ hmem, hcode⟩
                  · exact ih m (List.mem_cons_of_mem _ hm)

/-! ## One line more -/

/-- A line joins the first section, when it is a comment or no comment is in the way. -/
theorem addLine_ofBlock {language : Language} {line : Text} {block : List Text}
    {others : List Section}
    (h : language.isComment line = true ∨ comments language block = []) :
    addLine language line (ofBlock language block :: others) =
      ofBlock language (line :: block) :: others := by
  cases hkind : language.isComment line with
  | true => simp [addLine, addDocs, ofBlock, comments, codeLines, Text.unlines, hkind]
  | false =>
      have hnone : comments language block = [] := by simpa [hkind] using h
      simp only [comments] at hnone
      simp [addLine, addCode, ofBlock, comments, codeLines, Text.unlines, hkind, hnone]

/-- Code before a section with comments makes a section of its own. -/
theorem addLine_ofBlock_of_comments {language : Language} {line : Text} {block : List Text}
    {others : List Section} (hline : language.isComment line = false)
    (h : comments language block ≠ []) :
    addLine language line (ofBlock language block :: others) =
      ofBlock language [line] :: ofBlock language block :: others := by
  have hdocs : (ofBlock language block).docs ≠ [] := by
    simpa [ofBlock, Text.unlines_eq_nil] using h
  rw [addLine, if_neg (by simp [hline]), addCode, if_neg hdocs]
  simp [ofBlock, comments, codeLines, Text.unlines, hline]

theorem ofLines_eq_map_ofBlock (language : Language) (lines : List Text) :
    ofLines language lines = (blocks language lines).map (ofBlock language) := by
  induction lines with
  | nil => rfl
  | cons line rest ih =>
      rw [ofLines_cons, ih]
      cases rest with
      | nil => exact addLine_ofBlock (Or.inr rfl)
      | cons next rest =>
          cases hends : endsBetween language line next with
          | true =>
              simp only [endsBetween, Bool.and_eq_true, Bool.not_eq_true'] at hends
              obtain ⟨hline, hnext⟩ := hends
              obtain ⟨block, others, heq⟩ := exists_blocks_cons language next rest
              rw [blocks_cons_of_ends (by simp [endsBetween, hline, hnext]), heq]
              exact addLine_ofBlock_of_comments hline (by simp [comments, hnext])
          | false =>
              obtain ⟨block, others, hrest, hall⟩ :=
                exists_blocks_of_joins hends rest
              rw [hrest, hall]
              refine addLine_ofBlock ?_
              cases hline : language.isComment line with
              | true => exact Or.inl rfl
              | false =>
                  have hnext : language.isComment next = false := by
                    simpa [endsBetween, hline] using hends
                  have hsorted : CommentsFirst language (next :: block) :=
                    commentsFirst_of_mem_blocks (hrest ▸ List.mem_cons_self ..)
                  exact Or.inr (comments_cons_of_code hsorted hnext)

theorem ofSource_ne_nil (language : Language) (source : Text) :
    ofSource language source ≠ [] := by
  rw [ofSource, ofLines_eq_map_ofBlock]
  refine mt List.map_eq_nil_iff.1 (List.ne_nil_of_length_pos ?_)
  rw [length_blocks]
  omega

/-- The sections of a source are its blocks in order. One more block than there
are cuts; no line lost, doubled or moved; in each block first comments, then
code; and only the first block may be without comments, only the last one
without code. -/
theorem ofSource_eq_blocks (language : Language) (source : Text) :
    let lines := splitLines source
    let parts := blocks language lines
    ofSource language source = parts.map (ofBlock language) ∧
      parts.length = 1 + cuts language lines ∧
      parts.flatten = lines ∧
      (∀ block ∈ parts, comments language block ++ codeLines language block = block) ∧
      (∀ block ∈ parts.tail, ∃ line ∈ block, language.isComment line = true) ∧
      (∀ block ∈ parts.dropLast, ∃ line ∈ block, language.isComment line = false) :=
  ⟨ofLines_eq_map_ofBlock language (splitLines source),
    length_blocks language (splitLines source),
    flatten_blocks language (splitLines source),
    fun _ hmem => comments_append_codeLines (commentsFirst_of_mem_blocks hmem),
    exists_comment_of_mem_tail language (splitLines source),
    exists_code_of_mem_dropLast language (splitLines source)⟩

end Section
end Marginalia
