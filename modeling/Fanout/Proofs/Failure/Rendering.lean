import Fanout.Failure
import Mathlib.Data.List.Nodup

/-!
# What a rendering tells

A failure is made of texts that came from elsewhere: messages, contexts, the error output of a command, what
the system says. Its rendering consists of such texts and of words of its own. Each text stands in it once
just where the outermost layer is the only one with a code, if there is one, and no program failed to start:
contexts above a code are passed over, and a layer that says what its cause says has it said again below.
-/
namespace Fanout

/-! ## Occurrences of a text -/

namespace Chars

/-- At how many places of a list another one stands, which is not empty. -/
def occurrences (part : List Char) : List Char → Nat
  | [] => 0
  | c :: cs => (if part.isPrefixOf (c :: cs) then 1 else 0) + occurrences part cs

theorem occurrences_append (part front back : List Char) :
    occurrences part front + occurrences part back ≤ occurrences part (front ++ back) := by
  induction front with
  | nil => simp [occurrences]
  | cons c front ih =>
      rw [List.cons_append, occurrences, occurrences]
      split
      · rename_i h
        have hbegins : part <+: c :: (front ++ back) :=
          (List.isPrefixOf_iff_prefix.mp h).trans (List.prefix_append (c :: front) back)
        rw [if_pos (List.isPrefixOf_iff_prefix.mpr hbegins)]
        omega
      · split <;> omega

theorem occurrences_self {part : List Char} (h : part ≠ []) : 1 ≤ occurrences part part := by
  cases part with
  | nil => exact absurd rfl h
  | cons c part =>
      rw [occurrences, if_pos (List.isPrefixOf_iff_prefix.mpr (List.prefix_refl _))]
      omega

end Chars

namespace Text

/-- At how many places of a text another one stands, which is not empty. -/
def occurrences (part whole : String) : Nat :=
  Chars.occurrences part.toList whole.toList

end Text

namespace Failure

/-! ## The layout of a rendering -/

/-- A part of a rendering: words of its own, or a text that it tells. -/
inductive Piece where
  | words (text : String)
  | told (text : String)

namespace Piece

def text : Piece → String
  | .words text => text
  | .told text => text

def told? : Piece → Option String
  | .words _ => none
  | .told text => some text

end Piece

/-- A text that is told at several pieces stands at several places. -/
theorem count_told_le {t : String} (h : t ≠ "") (pieces : List Piece) :
    (pieces.filterMap Piece.told?).count t ≤
      Text.occurrences t (String.join (pieces.map Piece.text)) := by
  have hne : t.toList ≠ [] := by simpa using h
  induction pieces with
  | nil => simp
  | cons p pieces ih =>
      have happend := Chars.occurrences_append t.toList p.text.toList
        (String.join (pieces.map Piece.text)).toList
      rw [Text.occurrences] at ih ⊢
      rw [List.map_cons, String.join_cons, String.toList_append]
      cases p with
      | words text =>
          rw [List.filterMap_cons_none rfl]
          omega
      | told text =>
          have htold : (Piece.told text :: pieces).filterMap Piece.told? =
              text :: pieces.filterMap Piece.told? := rfl
          rw [htold, List.count_cons]
          have hself := Chars.occurrences_self hne
          split
          · rename_i he
            obtain rfl : text = t := by simpa using he
            simp only [Piece.text] at happend ⊢
            omega
          · omega

/-- What is said of a command that failed, in pieces: its error output is told if it is not blank. -/
def exitPieces (status : Option Int) (stderr : String) : List Piece :=
  .words (exitText status "") ::
    if (Text.trim stderr).isEmpty then [] else [.words ": ", .told (Text.trim stderr)]

/-- What a layer says, in pieces. -/
def displayPieces : Failure → List Piece
  | .message text => [.told text]
  | .context text _ => [.told text]
  | .coded code cause => .words s!"ERROR[{code.toNat}] " :: cause.displayPieces
  | .exit status stderr => exitPieces status stderr
  | .spawn program cause =>
    [.words "failed to execute ", .told program, .words ": ", .told cause.message]
  | .os cause => [.told cause.message]
  | .fault cause => [.told cause.message]

def chainPieces (f : Failure) : List Piece :=
  [Piece.words ": "].intercalate (f.layers.map displayPieces)

def renderPieces (f : Failure) : List Piece :=
  match f.coded? with
  | some (code, cause) => .words s!"ERROR[{code.toNat}] " :: cause.chainPieces
  | none => f.chainPieces

theorem exitText_eq (status : Option Int) (stderr : String) : exitText status stderr =
    exitText status "" ++ if (Text.trim stderr).isEmpty then "" else ": " ++ Text.trim stderr := by
  have hblank : (Text.trim "").isEmpty = true := by decide
  simp only [exitText, hblank, if_true]
  split
  · rw [String.append_empty]
  · rw [String.append_assoc]

theorem join_exitPieces (status : Option Int) (stderr : String) :
    String.join ((exitPieces status stderr).map Piece.text) = exitText status stderr := by
  rw [exitText_eq, exitPieces, List.map_cons, String.join_cons, Piece.text]
  split
  · rw [List.map_nil, String.join_nil]
  · simp only [List.map_cons, List.map_nil, String.join_cons, String.join_nil, Piece.text,
      String.append_empty]

-- By definition: unfolding `display` as a whole goes through the texts of all error numbers.
theorem display_coded (code : UInt32) (cause : Failure) :
    (coded code cause).display = s!"ERROR[{code.toNat}] " ++ cause.display :=
  rfl

theorem display_exit (status : Option Int) (stderr : String) :
    (exit status stderr).display = exitText status stderr :=
  rfl

theorem display_spawn (program : String) (cause : OsError) :
    (spawn program cause).display = "failed to execute " ++ program ++ ": " ++ cause.message :=
  rfl

theorem join_told (text : String) : String.join ([Piece.told text].map Piece.text) = text := by
  rw [List.map_singleton, String.join_cons, String.join_nil, String.append_empty, Piece.text]

theorem join_displayPieces (f : Failure) : String.join (f.displayPieces.map Piece.text) = f.display := by
  induction f with
  | coded code cause ih => rw [display_coded, ← ih, displayPieces, List.map_cons, String.join_cons, Piece.text]
  | exit status stderr => rw [display_exit, displayPieces, join_exitPieces]
  | spawn program cause =>
      rw [display_spawn, displayPieces]
      simp only [List.map_cons, List.map_nil, String.join_cons, String.join_nil, Piece.text,
        String.append_empty, String.append_assoc]
  | message text => exact join_told text
  | context text cause => exact join_told text
  | os cause => exact join_told cause.message
  | fault cause => exact join_told cause.message

theorem join_intercalate (sep : Piece) (layers : List (List Piece)) :
    String.join (([sep].intercalate layers).map Piece.text) =
      sep.text.intercalate (layers.map fun pieces => String.join (pieces.map Piece.text)) := by
  induction layers with
  | nil => rfl
  | cons pieces layers ih =>
      cases layers with
      | nil => simp
      | cons next layers =>
          rw [List.intercalate_cons_cons, List.map_append, List.map_append, String.join_append,
            String.join_append, ih]
          simp [String.intercalate_cons_cons]

theorem join_chainPieces (f : Failure) : String.join (f.chainPieces.map Piece.text) = f.chain := by
  rw [chainPieces, join_intercalate, List.map_map, chain]
  exact congrArg _ (List.map_congr_left fun g _ => join_displayPieces g)

/-- The pieces are those of the rendering. -/
theorem join_renderPieces (f : Failure) : String.join (f.renderPieces.map Piece.text) = f.render := by
  rw [renderPieces, render]
  cases f.coded? with
  | none => exact join_chainPieces f
  | some found =>
      simp only [List.map_cons, String.join_cons, join_chainPieces]
      rfl

/-! ## The texts that are told -/

/-- The texts that a failure is made of, from the outside in. -/
def texts : Failure → List String
  | .message text => [text]
  | .context text cause => text :: cause.texts
  | .coded _ cause => cause.texts
  | .exit _ stderr => [Text.trim stderr]
  | .spawn program cause => [program, cause.message]
  | .os cause => [cause.message]
  | .fault cause => [cause.message]

/-- The texts told by the outermost layer. -/
def displayed (f : Failure) : List String :=
  f.displayPieces.filterMap Piece.told?

/-- The texts told by all layers, one after the other. -/
def chained (f : Failure) : List String :=
  f.chainPieces.filterMap Piece.told?

/-- The texts told by the rendering. -/
def tellings (f : Failure) : List String :=
  f.renderPieces.filterMap Piece.told?

variable {f cause : Failure} {code : UInt32} {text : String}

theorem told_intercalate (words : String) (layers : List (List Piece)) :
    ([Piece.words words].intercalate layers).filterMap Piece.told? =
      layers.flatMap (List.filterMap Piece.told?) := by
  induction layers with
  | nil => rfl
  | cons pieces layers ih =>
      cases layers with
      | nil => simp
      | cons next layers =>
          rw [List.intercalate_cons_cons, List.filterMap_append, List.filterMap_append, ih,
            List.flatMap_cons]
          exact List.append_assoc _ [] _

theorem chained_eq (f : Failure) : f.chained = f.layers.flatMap displayed := by
  rw [chained, chainPieces, told_intercalate, List.flatMap_map]
  rfl

theorem chained_context (text : String) (cause : Failure) :
    (context text cause).chained = text :: cause.chained := by
  rw [chained_eq, chained_eq, layers, List.flatMap_cons]
  rfl

/-- A layer with a code says what its cause says, and then the cause says it again. -/
theorem chained_coded (code : UInt32) (cause : Failure) :
    (coded code cause).chained = cause.displayed ++ cause.chained := by
  rw [chained_eq, chained_eq, layers, List.flatMap_cons]
  rfl

theorem chained_spawn (program : String) (cause : OsError) :
    (spawn program cause).chained = [program, cause.message, cause.message] := by
  rw [chained_eq, layers]
  rfl

theorem displayed_exit (status : Option Int) (stderr : String) : (exit status stderr).displayed =
    if (Text.trim stderr).isEmpty then [] else [Text.trim stderr] := by
  rw [displayed, displayPieces, exitPieces]
  split <;> rfl

theorem displayed_exit_of_ne {status : Option Int} {stderr : String} (h : Text.trim stderr ≠ "") :
    (exit status stderr).displayed = [Text.trim stderr] := by
  rw [displayed_exit, if_neg (by simpa [String.isEmpty_iff] using h)]

theorem chained_leaf (h : f.layers = [f]) : f.chained = f.displayed := by
  rw [chained_eq, h, List.flatMap_singleton]

theorem exists_layers_eq_cons (f : Failure) : ∃ below, f.layers = f :: below := by
  cases f <;> exact ⟨_, rfl⟩

theorem mem_chained_of_displayed (h : text ∈ f.displayed) : text ∈ f.chained := by
  obtain ⟨below, hlayers⟩ := exists_layers_eq_cons f
  rw [chained_eq, hlayers, List.flatMap_cons]
  exact List.mem_append_left _ h

theorem mem_texts_of_displayed (h : text ∈ f.displayed) : text ∈ f.texts := by
  induction f with
  | context text' cause => exact List.mem_cons.mpr (.inl (List.mem_singleton.mp h))
  | coded code cause ih => exact ih h
  | exit status stderr =>
      rw [displayed_exit] at h
      split at h
      · cases h
      · exact h
  | _ => exact h

/-- Nothing is told but the failure's own texts. -/
theorem mem_texts_of_chained (h : text ∈ f.chained) : text ∈ f.texts := by
  induction f with
  | context text' cause ih =>
      rw [chained_context] at h
      exact (List.mem_cons.mp h).elim (fun he => he ▸ List.mem_cons_self) fun h =>
        List.mem_cons_of_mem _ (ih h)
  | coded code cause ih =>
      rw [chained_coded] at h
      exact (List.mem_append.mp h).elim (mem_texts_of_displayed (f := cause)) ih
  | spawn program cause =>
      rw [chained_spawn] at h
      simpa [texts] using h
  | _ =>
      rw [chained_leaf rfl] at h
      exact mem_texts_of_displayed h

/-- The outermost layer tells a text, since no text is empty. -/
theorem exists_displayed (h : ∀ text ∈ f.texts, text ≠ "") : ∃ text, text ∈ f.displayed := by
  induction f with
  | context text cause => exact ⟨text, List.mem_singleton_self text⟩
  | coded code cause ih => exact ih h
  | exit status stderr =>
      rw [displayed_exit_of_ne (h _ (List.mem_singleton_self _))]
      exact ⟨_, List.mem_singleton_self _⟩
  | _ => exact ⟨_, List.mem_cons_self⟩

theorem mem_texts_of_coded? (h : f.coded? = some (code, cause)) (ht : text ∈ cause.texts) :
    text ∈ f.texts := by
  induction f with
  | context text' f ih => exact List.mem_cons_of_mem _ (ih h)
  | coded code' cause' =>
      cases h
      exact ht
  | _ => cases h

/-! ## Texts told once -/

/-- No layer has a code, and none is a program that failed to start. -/
def isPlain : Failure → Bool
  | .context _ cause => cause.isPlain
  | .coded _ _ => false
  | .spawn _ _ => false
  | _ => true

/-- As `isPlain`, but the outermost layer may have a code. -/
def isStraight : Failure → Bool
  | .coded _ cause => cause.isPlain
  | f => f.isPlain

theorem coded?_of_isPlain (h : f.isPlain = true) : f.coded? = none := by
  induction f with
  | context text cause ih => exact ih h
  | coded code cause => cases h
  | _ => rfl

theorem chained_of_isPlain (h : f.isPlain = true) (hwritten : ∀ text ∈ f.texts, text ≠ "") :
    f.chained = f.texts := by
  induction f with
  | context text cause ih =>
      rw [chained_context, texts, ih h fun t ht => hwritten t (List.mem_cons_of_mem _ ht)]
  | coded code cause => cases h
  | spawn program cause => cases h
  | exit status stderr =>
      rw [chained_leaf rfl, displayed_exit_of_ne (hwritten _ (List.mem_singleton_self _)), texts]
  | _ => exact chained_leaf rfl

/-- A layer that says what its cause says has a text told twice. -/
theorem exists_told_twice (h : f.isPlain = false) (hwritten : ∀ text ∈ f.texts, text ≠ "") :
    ∃ text ∈ f.texts, 2 ≤ f.chained.count text := by
  induction f with
  | context text cause ih =>
      obtain ⟨t, ht, hcount⟩ := ih h fun t ht => hwritten t (List.mem_cons_of_mem _ ht)
      refine ⟨t, List.mem_cons_of_mem _ ht, ?_⟩
      rw [chained_context, List.count_cons]
      omega
  | coded code cause =>
      obtain ⟨t, ht⟩ := exists_displayed (f := cause) hwritten
      refine ⟨t, mem_texts_of_displayed (f := cause) ht, ?_⟩
      have hshown := List.count_pos_iff.mpr ht
      have hbelow := List.count_pos_iff.mpr (mem_chained_of_displayed ht)
      rw [chained_coded, List.count_append]
      omega
  | spawn program cause =>
      refine ⟨cause.message, List.mem_cons_of_mem _ List.mem_cons_self, ?_⟩
      rw [chained_spawn, List.count_cons, List.count_cons_self, List.count_cons_self]
      omega
  | _ => cases h

theorem tellings_of_coded? (h : f.coded? = some (code, cause)) : f.tellings = cause.chained := by
  rw [tellings, renderPieces, h]
  rfl

theorem tellings_of_uncoded (h : f.coded? = none) : f.tellings = f.chained := by
  rw [tellings, renderPieces, h]
  rfl

theorem tellings_of_isStraight (h : f.isStraight = true) (hwritten : ∀ text ∈ f.texts, text ≠ "") :
    f.tellings = f.texts := by
  cases f with
  | coded code cause => rw [tellings_of_coded? rfl, chained_of_isPlain h hwritten, texts]
  | _ => rw [tellings_of_uncoded (coded?_of_isPlain h), chained_of_isPlain h hwritten]

theorem exists_not_told_once (h : f.isStraight = false) (hdistinct : f.texts.Nodup)
    (hwritten : ∀ text ∈ f.texts, text ≠ "") : ∃ text ∈ f.texts, f.tellings.count text ≠ 1 := by
  cases f with
  | coded code cause =>
      obtain ⟨t, ht, hcount⟩ := exists_told_twice (f := cause) h hwritten
      exact ⟨t, ht, by rw [tellings_of_coded? rfl]; omega⟩
  | context text cause =>
      cases hcoded : cause.coded? with
      | none =>
          obtain ⟨t, ht, hcount⟩ := exists_told_twice (f := context text cause) h hwritten
          exact ⟨t, ht, by rw [tellings_of_uncoded (f := context text cause) hcoded]; omega⟩
      | some found =>
          -- The context stands above a code, and what is rendered stands below that code.
          have hunseen : text ∉ (context text cause).tellings := by
            rw [tellings_of_coded? (f := context text cause) hcoded]
            exact fun hmem => (List.nodup_cons.mp hdistinct).1
              (mem_texts_of_coded? hcoded (mem_texts_of_chained hmem))
          exact ⟨text, List.mem_cons_self, by rw [List.count_eq_zero_of_not_mem hunseen]; decide⟩
  | spawn program cause =>
      obtain ⟨t, ht, hcount⟩ := exists_told_twice (f := spawn program cause) h hwritten
      exact ⟨t, ht, by rw [tellings_of_uncoded rfl]; omega⟩
  | _ => cases h

/-- The rendering is laid out in words of its own and texts of the failure, and each of these texts stands
in it just once exactly if at most the outermost layer has a code and no program failed to start. -/
theorem told_once_iff (f : Failure) (hdistinct : f.texts.Nodup) (hwritten : ∀ text ∈ f.texts, text ≠ "") :
    String.join (f.renderPieces.map Piece.text) = f.render ∧
    (∀ text ∈ f.texts, f.tellings.count text ≤ Text.occurrences text f.render) ∧
    ((∀ text ∈ f.texts, f.tellings.count text = 1) ↔ f.isStraight = true) := by
  have hlayout := join_renderPieces f
  refine ⟨hlayout, fun text ht => hlayout ▸ count_told_le (hwritten text ht) f.renderPieces, ?_, ?_⟩
  · intro honce
    cases h : f.isStraight with
    | true => rfl
    | false =>
        obtain ⟨text, ht, hcount⟩ := exists_not_told_once h hdistinct hwritten
        exact absurd (honce text ht) hcount
  · intro h text ht
    rw [tellings_of_isStraight h hwritten]
    exact List.count_eq_one_of_mem hdistinct ht

/-- A code over what went wrong with a file. -/
def unreadable : Failure :=
  .coded 3 (.context "Could not read cluster file" (.os .notFound))

theorem told_once_iff_unreadable : unreadable.texts.Nodup ∧ (∀ text ∈ unreadable.texts, text ≠ "") ∧
    unreadable.texts = ["Could not read cluster file", "No such file or directory (os error 2)"] ∧
    ∀ text ∈ unreadable.texts, unreadable.tellings.count text = 1 := by
  have htexts : unreadable.texts =
      ["Could not read cluster file", "No such file or directory (os error 2)"] := by decide +kernel
  have hdistinct : unreadable.texts.Nodup := by rw [htexts]; decide
  have hwritten : ∀ text ∈ unreadable.texts, text ≠ "" := by rw [htexts]; decide
  exact ⟨hdistinct, hwritten, htexts, (told_once_iff unreadable hdistinct hwritten).2.2.mpr rfl⟩

/-- A code under a code. -/
def recoded : Failure :=
  .coded 3 (.coded 70 (.message "broken"))

/-- A text under two codes stands in the rendering twice. -/
theorem recoded_told_twice : recoded.texts = ["broken"] ∧
    (∀ p ∈ recoded.renderPieces, p.told? = none → Text.occurrences "broken" p.text = 0) ∧
    recoded.render = "ERROR[3] ERROR[70] broken: broken" ∧
    Text.occurrences "broken" recoded.render = 2 := by
  decide

end Failure

end Fanout
