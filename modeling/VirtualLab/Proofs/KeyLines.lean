import VirtualLab.PublicKey
import VirtualLab.Proofs.ComparedDigests
import VirtualLab.Proofs.Listings

/-!
# Key lines

A configured key is a key line or the path of a file that holds one, and what it stands for is that
line without the blanks around it: an accepted type, a body and at most one word of comment. Any
blanks may part these words, line breaks too, so a key is on one line exactly if its words are.
-/

namespace VirtualLab

/-! ## Words with blanks between them -/

namespace Text

variable {text left right word : List Char} {others : List (List Char)}

def isLineBreak (character : Char) : Bool :=
  let code := character.toNat
  (0x0A ≤ code && code ≤ 0x0D) || code == 0x85 || code == 0x2028 || code == 0x2029

theorem isLineBreak_of_not_isBlank {character : Char} (plain : isBlank character = false) :
    isLineBreak character = false := by
  simp only [isBlank, isLineBreak, Bool.or_eq_false_iff, Bool.and_eq_false_iff,
    decide_eq_false_iff_not, beq_eq_false_iff_ne] at plain ⊢
  omega

def OneLine (text : List Char) : Prop := ∀ character ∈ text, isLineBreak character = false

theorem oneLine_append : OneLine (left ++ right) ↔ OneLine left ∧ OneLine right :=
  List.forall_mem_append

theorem IsWord.oneLine (isWord : IsWord word) : OneLine word :=
  fun character member => isLineBreak_of_not_isBlank (isWord.plain character member)

theorem words_cons_blank {blank : Char} (isBlank : isBlank blank = true) :
    words (blank :: text) = words text := by
  change words ([] ++ blank :: text) = words [] ++ words text
  exact words_append_blank isBlank

theorem words_blank_append (before : ∀ character ∈ left, isBlank character = true) :
    words (left ++ text) = words text := by
  induction left with
  | nil => rfl
  | cons first rest induction =>
    obtain ⟨firstBlank, restBlank⟩ := List.forall_mem_cons.mp before
    rw [List.cons_append, words_cons_blank firstBlank, induction restBlank]

theorem words_append_of_isWord (isWord : IsWord word)
    (parted : ∀ character ∈ right.head?, isBlank character = true) :
    words (word ++ right) = word :: words right := by
  have whole : words word = [word] := words_of_plain isWord.nonempty isWord.plain
  cases right with
  | nil => rw [List.append_nil, whole]; rfl
  | cons blank rest =>
    have isBlank := parted blank rfl
    rw [words_append_blank isBlank, whole, words_cons_blank isBlank]
    rfl

/-- A text has only blanks, or begins with a first word after blanks. -/
theorem blank_or_first_word (text : List Char) :
    (∀ character ∈ text, isBlank character = true) ∨
      ∃ before word after, text = before ++ word ++ after ∧
        (∀ character ∈ before, isBlank character = true) ∧ IsWord word ∧
        (∀ character ∈ after.head?, isBlank character = true) ∧
        words text = word :: words after := by
  have before : ∀ character ∈ text.takeWhile isBlank, isBlank character = true :=
    fun _ member => List.mem_takeWhile_imp member
  have split := List.takeWhile_append_dropWhile (p := isBlank) (l := text)
  cases starts : text.dropWhile isBlank with
  | nil => exact .inl (List.dropWhile_eq_nil_iff.mp starts)
  | cons first rest =>
    right
    have isWord : IsWord ((first :: rest).takeWhile (!isBlank ·)) := by
      refine ⟨?_, fun character member => by simpa using List.mem_takeWhile_imp member⟩
      simp [not_isBlank_of_trimStart starts]
    have parted : ∀ character ∈ ((first :: rest).dropWhile (!isBlank ·)).head?,
        isBlank character = true := by
      intro character head
      have ends := List.head?_dropWhile_not (!isBlank ·) (first :: rest)
      rw [head] at ends
      simpa using ends
    refine ⟨text.takeWhile isBlank, _, _, ?_, before, isWord, parted, ?_⟩
    · rw [List.append_assoc, List.takeWhile_append_dropWhile, ← starts, split]
    · rw [← words_append_of_isWord isWord parted, List.takeWhile_append_dropWhile, ← starts]
      conv_lhs => rw [← split]
      exact words_blank_append before

/-! ### The blanks between words -/

structure Spaced where
  gap : List Char
  word : List Char
  parted : gap ≠ []
  blank : ∀ character ∈ gap, isBlank character = true
  isWord : IsWord word

def Spaced.written (spaced : Spaced) : List Char := spaced.gap ++ spaced.word

theorem head?_spaced (following : List Spaced) :
    ∀ character ∈ (following.flatMap Spaced.written).head?, isBlank character = true := by
  cases following with
  | nil => simp
  | cons spaced rest =>
    intro character head
    rw [List.flatMap_cons, Spaced.written, List.append_assoc,
      List.head?_append_of_ne_nil _ spaced.parted] at head
    exact spaced.blank character (List.mem_of_mem_head? head)

theorem words_spaced (following : List Spaced) :
    words (following.flatMap Spaced.written) = following.map Spaced.word := by
  induction following with
  | nil => rfl
  | cons spaced rest induction =>
    rw [List.flatMap_cons, Spaced.written, List.append_assoc, words_blank_append spaced.blank,
      words_append_of_isWord spaced.isWord (head?_spaced rest), induction, List.map_cons]

/-- A text that begins with a blank is its words, each with the blanks before it, and blanks after
them. -/
theorem exists_spaced (begins : ∀ character ∈ text.head?, isBlank character = true)
    (cut : words text = others) :
    ∃ (following : List Spaced) (trail : List Char), text = following.flatMap Spaced.written ++ trail ∧
      (∀ character ∈ trail, isBlank character = true) ∧ following.map Spaced.word = others := by
  induction others generalizing text with
  | nil =>
    rcases blank_or_first_word text with blank | ⟨_, _, _, _, _, _, _, some⟩
    · exact ⟨[], text, rfl, blank, rfl⟩
    · rw [cut] at some
      cases some
  | cons word others induction =>
    rcases blank_or_first_word text with blank | ⟨gap, first, after, rfl, blank, isWord, parted, first'⟩
    · rw [← List.append_nil text, words_blank_append blank] at cut
      cases cut
    · obtain ⟨rfl, rest⟩ := List.cons.inj (first'.symm.trans cut)
      obtain ⟨following, trail, rfl, trailBlank, named⟩ := induction parted rest
      have nonempty : gap ≠ [] := by
        rintro rfl
        obtain ⟨character, others, rfl⟩ := List.exists_cons_of_ne_nil isWord.nonempty
        have plain := isWord.plain character List.mem_cons_self
        rw [begins character rfl] at plain
        cases plain
      refine ⟨⟨gap, first, nonempty, blank, isWord⟩ :: following, trail, ?_, trailBlank, ?_⟩
      · simp [Spaced.written]
      · rw [List.map_cons, named]

theorem trimmed_spaced (isWord : IsWord word) (following : List Spaced) :
    trimmed (word ++ following.flatMap Spaced.written) =
      word ++ following.flatMap Spaced.written := by
  refine trimmed_eq_self ?_ ?_
  · rw [List.head?_append_of_ne_nil _ isWord.nonempty]
    exact fun character head => isWord.plain character (List.mem_of_mem_head? head)
  · induction following using List.reverseRecOn with
    | nil =>
      rw [List.flatMap_nil, List.append_nil]
      exact fun character last => isWord.plain character (List.mem_of_mem_getLast? last)
    | append_singleton rest spaced =>
      have written : word ++ (rest ++ [spaced]).flatMap Spaced.written =
          word ++ rest.flatMap Spaced.written ++ spaced.gap ++ spaced.word := by
        simp [Spaced.written]
      rw [written, List.getLast?_append_of_ne_nil _ spaced.isWord.nonempty]
      exact fun character last => spaced.isWord.plain character (List.mem_of_mem_getLast? last)

theorem words_of_spaced (isWord : IsWord word) (following : List Spaced) :
    words (word ++ following.flatMap Spaced.written) = word :: following.map Spaced.word := by
  rw [words_append_of_isWord isWord (head?_spaced following), words_spaced]

/-- Without the blanks at its ends a text is its words with the blanks between them. -/
theorem spaced_of_words (cut : words text = word :: others) :
    IsWord word ∧ ∃ following : List Spaced,
      trimmed text = word ++ following.flatMap Spaced.written ∧
        following.map Spaced.word = others := by
  rcases blank_or_first_word text with
    blank | ⟨before, first, after, rfl, blank, isWord, parted, cutFirst⟩
  · rw [← List.append_nil text, words_blank_append blank] at cut
    cases cut
  · obtain ⟨rfl, rest⟩ := List.cons.inj (cutFirst.symm.trans cut)
    obtain ⟨following, trail, rfl, trailBlank, named⟩ := exists_spaced parted rest
    refine ⟨isWord, following, ?_, named⟩
    rw [← List.append_assoc, List.append_assoc before, trimmed_surrounded blank trailBlank,
      trimmed_spaced isWord]

theorem oneLine_flatMap {following : List Spaced} :
    OneLine (following.flatMap Spaced.written) ↔ OneLine (following.flatMap Spaced.gap) := by
  induction following with
  | nil => rfl
  | cons spaced rest induction =>
    rw [List.flatMap_cons, List.flatMap_cons, oneLine_append, oneLine_append, induction,
      Spaced.written, oneLine_append, and_iff_left spaced.isWord.oneLine]

end Text

namespace PublicKey

open Text (Spaced)

/-! ## Key lines -/

structure KeyLine where
  kind : String
  body : Spaced
  comment : Option Spaced
  accepted : kind ∈ keyTypes
  base64 : ∀ character ∈ body.word, isBodyCharacter character = true

namespace KeyLine

variable (line : KeyLine)

def following : List Spaced := line.body :: line.comment.toList

def text : List Char := line.kind.toList ++ line.following.flatMap Spaced.written

def gaps : List Char := line.following.flatMap Spaced.gap

theorem isWord_kind : Text.IsWord line.kind.toList := by
  have words : ∀ kind ∈ keyTypes, Text.IsWord kind.toList := by decide
  exact words line.kind line.accepted

theorem trimmed_text : Text.trimmed line.text = line.text :=
  Text.trimmed_spaced line.isWord_kind line.following

theorem oneLine_iff : Text.OneLine line.text ↔ Text.OneLine line.gaps := by
  rw [text, Text.oneLine_append, and_iff_right line.isWord_kind.oneLine, Text.oneLine_flatMap, gaps]

theorem isKeyLine_text : isKeyLine (String.ofList line.text) = true := by
  have body : line.body.word.all isBodyCharacter = true := List.all_eq_true.mpr line.base64
  have kind : keyTypes.contains line.kind = true := List.contains_iff_mem.mpr line.accepted
  rw [isKeyLine, String.toList_ofList, text, Text.words_of_spaced line.isWord_kind, following]
  cases line.comment <;> simp [areKeyWords, body, line.accepted]

end KeyLine

/-- A text that is taken for a key line is one without the blanks at its ends. -/
theorem exists_keyLine {text : List Char} (accepted : areKeyWords (Text.words text) = true) :
    ∃ line : KeyLine, Text.trimmed text = line.text := by
  cases cut : Text.words text with
  | nil =>
    rw [cut] at accepted
    cases accepted
  | cons kind others =>
    obtain ⟨_, following, written, rfl⟩ := Text.spaced_of_words cut
    rw [cut] at accepted
    have stated (body : Spaced) (comment : Option Spaced)
        (parts : following = body :: comment.toList)
        (holds : (keyTypes.contains (String.ofList kind) && body.word.all isBodyCharacter) = true) :
        ∃ line : KeyLine, Text.trimmed text = line.text := by
      obtain ⟨known, base64⟩ := Bool.and_eq_true_iff.mp holds
      refine ⟨⟨String.ofList kind, body, comment, List.contains_iff_mem.mp known,
        List.all_eq_true.mp base64⟩, ?_⟩
      rw [written, KeyLine.text, KeyLine.following, String.toList_ofList, parts]
    rcases following with _ | ⟨body, _ | ⟨comment, _ | ⟨extra, rest⟩⟩⟩
    · cases accepted
    · exact stated body none rfl accepted
    · exact stated body (some comment) rfl accepted
    · cases accepted

/-- The trimmed texts that are taken for key lines are these. -/
theorem isKeyLine_trim_iff {text : String} :
    isKeyLine (Text.trim text) = true ↔ ∃ line : KeyLine, (Text.trim text).toList = line.text := by
  constructor
  · intro accepted
    obtain ⟨line, stated⟩ := exists_keyLine accepted
    rw [Text.trim, String.toList_ofList, Text.trimmed_trimmed] at stated
    exact ⟨line, by rw [Text.trim, String.toList_ofList, stated]⟩
  · rintro ⟨line, stated⟩
    rw [← String.ofList_toList (s := Text.trim text), stated]
    exact line.isKeyLine_text

/-! ## Resolving a configured key -/

variable {σ : Type} {conduct : Conduct σ} {home : Option Path} {value key : String}
  {start final : σ} {events : List (Event σ)}

/-- What a configured value stands for: the key line that it is, without a look at any file, or the
one that the file at its path holds. -/
inductive Resolved (conduct : Conduct σ) (home : Option Path) (value : String) (start : σ) :
    List (Event σ) → String → σ → Prop
  | line (line : KeyLine) (stated : (Text.trim value).toList = line.text) :
      Resolved conduct home value start [] (Text.trim value) start
  | file {bytes : Bytes} {content : String} {final : σ} (line : KeyLine)
      (noLine : ∀ other : KeyLine, (Text.trim value).toList ≠ other.text)
      (path : looksLikePath (Text.trim value) = true)
      (read : conduct (.readFile (Path.expandHome home (Text.trim value))) start (.ok bytes) final)
      (decoded : Bytes.toText? bytes = some content)
      (stated : (Text.trim content).toList = line.text) :
      Resolved conduct home value start
        [⟨start, .readFile (Path.expandHome home (Text.trim value)), .ok bytes, final⟩]
        (Text.trim content) final

theorem runs_keyFile {path : Path} :
    (ExceptT.lift (Script.readText path) >>= fun content =>
      Attempt.orFail (fun cause => .config (.keyUnreadable path cause)) content >>= fun content =>
        if isKeyLine (Text.trim content) then pure (Text.trim content)
        else throw (.config (.keyFileWithoutKey path)) : LabTask String).run.Runs conduct start events
          (.ok key) final ↔
      ∃ (line : KeyLine) (bytes : Bytes) (content : String),
        conduct (.readFile path) start (.ok bytes) final ∧ Bytes.toText? bytes = some content ∧
          (Text.trim content).toList = line.text ∧ key = Text.trim content ∧
            events = [⟨start, .readFile path, .ok bytes, final⟩] := by
  rw [Attempt.runs_lift_bind]
  constructor
  · rintro ⟨content, early, middle, late, reading, rest, rfl⟩
    rcases Attempt.runs_orFail_bind.mp rest with ⟨_, _, _, impossible, _⟩ | ⟨text, rfl, ended⟩
    · cases impossible
    · obtain ⟨bytes, read, decoded, rfl⟩ := Script.runs_readText.mp reading
      split at ended
      · rename_i accepted
        obtain ⟨line, stated⟩ := isKeyLine_trim_iff.mp accepted
        obtain ⟨rfl, equal, rfl⟩ := Attempt.runs_pure.mp ended
        cases equal
        exact ⟨line, bytes, text, read, decoded, stated, rfl, rfl⟩
      · obtain ⟨_, impossible, _⟩ := Attempt.runs_throw.mp ended
        cases impossible
  · rintro ⟨line, bytes, content, read, decoded, stated, rfl, rfl⟩
    refine ⟨.ok content, _, final, [], Script.runs_readText.mpr ⟨bytes, read, decoded, rfl⟩,
      Attempt.runs_orFail_bind.mpr (.inr ⟨content, rfl, ?_⟩), rfl⟩
    rw [if_pos (isKeyLine_trim_iff.mpr ⟨line, stated⟩)]
    exact Attempt.runs_pure.mpr ⟨rfl, rfl, rfl⟩

theorem runs_resolve :
    (resolve home value).run.Runs conduct start events (.ok key) final ↔
      Resolved conduct home value start events key final := by
  unfold resolve
  dsimp only
  split
  · rename_i accepted
    obtain ⟨line, stated⟩ := isKeyLine_trim_iff.mp accepted
    constructor
    · intro run
      obtain ⟨rfl, equal, rfl⟩ := Attempt.runs_pure.mp run
      cases equal
      exact .line line stated
    · intro resolved
      cases resolved with
      | line => exact Attempt.runs_pure.mpr ⟨rfl, rfl, rfl⟩
      | file _ noLine => exact absurd stated (noLine line)
  · rename_i rejected
    have noLine : ∀ other : KeyLine, (Text.trim value).toList ≠ other.text :=
      fun other stated => rejected (isKeyLine_trim_iff.mpr ⟨other, stated⟩)
    split
    · rename_i noPath
      constructor
      · intro run
        obtain ⟨_, impossible, _⟩ := Attempt.runs_throw.mp run
        cases impossible
      · intro resolved
        cases resolved with
        | line line stated => exact absurd stated (noLine line)
        | file _ _ path => simp [path] at noPath
    · rename_i path
      refine runs_keyFile.trans ⟨?_, ?_⟩
      · rintro ⟨line, bytes, content, read, decoded, stated, rfl, rfl⟩
        exact .file line noLine (by simpa using path) read decoded stated
      · intro resolved
        cases resolved with
        | line line stated => exact absurd stated (noLine line)
        | file line _ _ read decoded stated =>
          exact ⟨line, _, _, read, decoded, stated, rfl, rfl⟩

theorem Resolved.exists_keyLine (resolved : Resolved conduct home value start events key final) :
    ∃ line : KeyLine, key.toList = line.text := by
  cases resolved with
  | line line stated => exact ⟨line, stated⟩
  | file line _ _ _ _ stated => exact ⟨line, stated⟩

/-- A key line with blanks around it stands for itself, and no file is asked for. -/
theorem resolve_surrounded (home : Option Path) (line : KeyLine) {value : String}
    {before after : List Char} (beforeBlank : ∀ character ∈ before, Text.isBlank character = true)
    (afterBlank : ∀ character ∈ after, Text.isBlank character = true)
    (written : value.toList = before ++ line.text ++ after) :
    resolve home value = pure (String.ofList line.text) := by
  have trimmed : Text.trim value = String.ofList line.text := by
    rw [Text.trim, written, Text.trimmed_surrounded beforeBlank afterBlank, line.trimmed_text]
  unfold resolve
  dsimp only
  rw [trimmed, if_pos line.isKeyLine_text]

/-- A configured value is resolved to a key exactly if it is a key line, or the path of a file that
holds one, and to this line without the blanks around it. The key has an accepted type, a body of
base64 characters and at most one word of comment; there is no line break in it exactly if there is
none between these words. Every key line, with any blanks around it, is resolved without a file. -/
theorem resolves_to_key_line (home : Option Path) (value : String) :
    (∀ {σ : Type} (conduct : Conduct σ) (start final : σ) (events : List (Event σ)) (key : String),
      ((resolve home value).run.Runs conduct start events (.ok key) final ↔
        Resolved conduct home value start events key final) ∧
      ((resolve home value).run.Runs conduct start events (.ok key) final →
        ∃ line : KeyLine, key.toList = line.text ∧ Text.trim key = key ∧
          (Text.OneLine key.toList ↔ Text.OneLine line.gaps))) ∧
    ∀ (line : KeyLine) (before after : List Char),
      (∀ character ∈ before, Text.isBlank character = true) →
      (∀ character ∈ after, Text.isBlank character = true) →
      value.toList = before ++ line.text ++ after →
      resolve home value = pure (String.ofList line.text) := by
  refine ⟨fun conduct start final events key => ⟨runs_resolve, fun run => ?_⟩,
    fun line before after beforeBlank afterBlank =>
      resolve_surrounded home line beforeBlank afterBlank⟩
  obtain ⟨line, stated⟩ := (runs_resolve.mp run).exists_keyLine
  refine ⟨line, stated, ?_, ?_⟩
  · rw [Text.trim, stated, line.trimmed_text, ← stated, String.ofList_toList]
  · rw [stated]
    exact line.oneLine_iff

def homeFiles : FileSystem where
  entries := [(["home"], .directory),
    (["home", "lab.pub"], .file (Bytes.ofText "ssh-rsa AAAA ops@lab\n"))]

theorem filed_and_stated_key_resolved :
    (∃ (events : List (Event FileSystem)) (line : KeyLine),
      (resolve (some ⟨"/home"⟩) "~/lab.pub").run.Runs (FileSystem.conduct anyTool) homeFiles events
        (.ok "ssh-rsa AAAA ops@lab") homeFiles ∧
      "ssh-rsa AAAA ops@lab".toList = line.text ∧
      (Text.OneLine "ssh-rsa AAAA ops@lab".toList ↔ Text.OneLine line.gaps)) ∧
    resolve none " ssh-rsa AAAA ops@lab\n" = pure "ssh-rsa AAAA ops@lab" := by
  have trimmed : Text.trim "ssh-rsa AAAA ops@lab\n" = "ssh-rsa AAAA ops@lab" := by decide
  have isLine : isKeyLine (Text.trim "ssh-rsa AAAA ops@lab\n") = true := by decide
  obtain ⟨line, stated⟩ := isKeyLine_trim_iff.mp isLine
  constructor
  · have noLine : ∀ other : KeyLine, (Text.trim "~/lab.pub").toList ≠ other.text := by
      intro other equal
      have accepted := isKeyLine_trim_iff.mpr ⟨other, equal⟩
      revert accepted
      decide
    have resolved : Resolved (FileSystem.conduct anyTool) (some ⟨"/home"⟩) "~/lab.pub" homeFiles _
        (Text.trim "ssh-rsa AAAA ops@lab\n") homeFiles :=
      .file line noLine (by decide) ⟨by rfl, rfl⟩ (Bytes.toText?_ofText _) stated
    obtain ⟨resolves, holds⟩ := (resolves_to_key_line (some ⟨"/home"⟩) "~/lab.pub").1
      (FileSystem.conduct anyTool) homeFiles homeFiles _ (Text.trim "ssh-rsa AAAA ops@lab\n")
    have run := resolves.mpr resolved
    obtain ⟨found, text, -, oneLine⟩ := holds run
    rw [trimmed] at run text oneLine
    exact ⟨_, found, run, text, oneLine⟩
  · have text : String.ofList line.text = "ssh-rsa AAAA ops@lab" := by
      rw [← stated, String.ofList_toList, trimmed]
    rw [← text]
    refine (resolves_to_key_line none _).2 line [' '] ['\n'] ?_ ?_ ?_
    · exact List.forall_mem_singleton.mpr (by decide)
    · exact List.forall_mem_singleton.mpr (by decide)
    · rw [← stated, trimmed]
      rfl

/-- A line break between the words is kept. -/
theorem key_on_two_lines :
    resolve none "ssh-ed25519\nAAAA" = pure "ssh-ed25519\nAAAA" ∧
      ¬ Text.OneLine "ssh-ed25519\nAAAA".toList := by
  refine ⟨by rfl, fun oneLine => ?_⟩
  have broken := oneLine '\n' (by decide)
  revert broken
  decide

end PublicKey

end VirtualLab
