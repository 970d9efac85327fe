import Mathlib.Data.Bool.AllAny
import Mathlib.Tactic.IntervalCases
import VirtualLab.Hosts
import VirtualLab.Proofs.Settling
import VirtualLab.Proofs.ShellRuns

/-!
# Commands for the hosts file

A guest's shell reads the command for an entry as it is meant exactly if the line has no single
quote in it. Then running the commands of some entries adds the lines that are missing, each once,
and running them again changes nothing.
-/

namespace VirtualLab.GuestShell

def bare (text : String) : Token := .word text.toList true

def appendTokens (line : List Char) : List Token := [
  bare "grep", bare "-qxF", .word line true, bare "/etc/hosts", .operator "||".toList,
  bare "echo", .word line true, .operator ">>".toList, bare "/etc/hosts"]

def betweenLines : List Char := " /etc/hosts || echo '".toList

def afterLines : List Char := " >> /etc/hosts".toList

namespace Reader

variable {reader : Reader} {line : List Char}

/-! ## The parts of the command around the line -/

def beforeLine : Reader where
  tokens := [bare "grep", bare "-qxF"]
  mode := .single

theorem foldl_beforeLine : "grep -qxF '".toList.foldl step {} = beforeLine := by
  decide +kernel

theorem foldl_hostsFile (tokens : List Token) :
    "/etc/hosts".toList.foldl step { tokens } =
      { tokens, current := "/etc/hosts".toList, mode := .word } :=
  foldl_step_word (by decide) (List.all_iff_forall_prop.mp (by decide))

theorem foldl_betweenLines (reader : Reader) (unescaped : reader.escaped = false)
    (word : reader.mode = .word) :
    betweenLines.foldl step reader =
      { tokens := reader.tokens ++ [.word reader.current reader.literal, bare "/etc/hosts",
          .operator "||".toList, bare "echo"]
        mode := .single } := by
  have parts : betweenLines = [' '] ++ "/etc/hosts".toList ++ [' '] ++ "|| ".toList ++
      "echo".toList ++ [' '] ++ ['\''] := by
    decide +kernel
  have operator (tokens : List Token) : "|| ".toList.foldl step { tokens } =
      { tokens := tokens ++ [.operator "||".toList] } := rfl
  have echo (tokens : List Token) : "echo".toList.foldl step { tokens } =
      { tokens, current := "echo".toList, mode := .word } :=
    foldl_step_word (by decide) (List.all_iff_forall_prop.mp (by decide))
  have quote (tokens : List Token) : step { tokens } '\'' = { tokens, mode := .single } := rfl
  have blank (tokens : List Token) (text : List Char) :
      step { tokens, current := text, mode := .word } ' ' =
        { tokens := tokens ++ [.word text true] } :=
    step_blank_of_word rfl rfl
  rw [parts]
  simp only [List.foldl_append, List.foldl_cons, List.foldl_nil, step_blank_of_word unescaped word,
    foldl_hostsFile, blank, operator, echo, quote, List.append_assoc]
  rfl

theorem result_afterLines (reader : Reader) (unescaped : reader.escaped = false)
    (word : reader.mode = .word) :
    (afterLines.foldl step reader).result =
      some (reader.tokens ++ [.word reader.current reader.literal, .operator ">>".toList,
        bare "/etc/hosts"]) := by
  have parts : afterLines = [' '] ++ ">> ".toList ++ "/etc/hosts".toList := by decide +kernel
  have operator (tokens : List Token) : ">> ".toList.foldl step { tokens } =
      { tokens := tokens ++ [.operator ">>".toList] } := rfl
  rw [parts]
  simp only [List.foldl_append, List.foldl_cons, List.foldl_nil, step_blank_of_word unescaped word,
    operator, foldl_hostsFile, List.append_assoc]
  simp [result, ended, bare]

end Reader

/-! ## Where the line stands among the tokens -/

section AppendTokens

variable {line text : List Char} {literal : Bool} {index : Nat} {front : List Token}

theorem index_eq_of_alternative
    (found : (appendTokens line)[index]? = some (.operator "||".toList)) : index = 4 := by
  have within : index < 9 := (List.getElem?_eq_some_iff.mp found).1
  interval_cases index
  case «4» => rfl
  all_goals simp [appendTokens, bare] at found

theorem index_eq_of_blank (found : (appendTokens line)[index]? = some (.word text literal))
    (blank : ' ' ∈ text) : (index = 2 ∨ index = 6) ∧ text = line := by
  have within : index < 9 := (List.getElem?_eq_some_iff.mp found).1
  interval_cases index
  case «4» | «7» => simp [appendTokens, bare] at found
  all_goals
    simp only [appendTokens, bare, List.getElem?_cons_succ, List.getElem?_cons_zero,
      Option.some_inj, Token.word.injEq] at found
    obtain ⟨rfl, _⟩ := found
  case «2» | «6» => exact ⟨by decide, rfl⟩
  all_goals exact absurd blank (by decide)

theorem eq_line_of_between
    (starts :
      front ++ [.word text literal, bare "/etc/hosts", .operator "||".toList, bare "echo"] <+:
        appendTokens line) :
    front = [bare "grep", bare "-qxF"] ∧ text = line := by
  obtain ⟨rest, shown⟩ := starts
  have alternative : (appendTokens line)[front.length + 2]? = some (.operator "||".toList) := by
    rw [← shown, List.append_assoc, List.getElem?_append_right (Nat.le_add_right ..),
      Nat.add_sub_cancel_left]
    rfl
  have length : front.length = 2 := by
    have := index_eq_of_alternative alternative
    omega
  obtain ⟨first, second, rfl⟩ := List.length_eq_two.mp length
  simp only [appendTokens, List.cons_append, List.nil_append, List.cons.injEq, Token.word.injEq]
    at shown
  obtain ⟨rfl, rfl, ⟨rfl, _⟩, _⟩ := shown
  exact ⟨rfl, rfl⟩

theorem eq_line_of_after
    (shown : front ++ [.word text literal, .operator ">>".toList, bare "/etc/hosts"] =
      appendTokens line) : text = line ∧ size front = 24 + line.length := by
  have parts : appendTokens line = [bare "grep", bare "-qxF", .word line true, bare "/etc/hosts",
      .operator "||".toList, bare "echo"] ++
        [.word line true, .operator ">>".toList, bare "/etc/hosts"] := rfl
  rw [parts] at shown
  obtain ⟨rfl, last⟩ := List.append_inj' shown rfl
  simp only [List.cons.injEq, Token.word.injEq] at last
  refine ⟨last.1.1, ?_⟩
  simp [bare, Token.text]
  omega

theorem size_appendTokens (line : List Char) : size (appendTokens line) = 36 + 2 * line.length := by
  simp [appendTokens, bare, Token.text]
  omega

end AppendTokens

namespace Reader

variable {reader : Reader} {line : List Char}

/-- The size of a reader from which the end of the command leads to the tokens. Either a backslash
stands before the quote that ends the second line, and this quote is the last character of it, or
the line was taken twice. -/
theorem size_of_result
    (read : (afterLines.foldl step (reader.step '\'')).result = some (appendTokens line)) :
    (reader.escaped = true ∧ line.getLast? = some '\'') ∨ 24 + 2 * line.length ≤ reader.size := by
  rcases step_quote_cases reader with
    ⟨unescaped, closed⟩ | ⟨escaped, word, unescaped, text, current⟩ | ⟨unescaped, comment⟩ |
      ⟨quoted, _⟩
  · rw [closed, result_afterLines { reader with mode := .word } unescaped rfl,
      Option.some_inj] at read
    obtain ⟨current, front⟩ := eq_line_of_after read
    refine .inr ?_
    simp only [size, front, ← current]
    omega
  · rw [result_afterLines _ unescaped word, Option.some_inj] at read
    obtain ⟨rfl, _⟩ := eq_line_of_after read
    exact .inl ⟨escaped, by simp [current]⟩
  · have passed := foldl_step_comment ('\'' :: afterLines) unescaped comment (by decide)
    rw [← List.foldl_cons, passed] at read
    have all : reader.tokens = appendTokens line := by
      simpa [result, ended, unescaped, comment] using read
    have length := size_appendTokens line
    refine .inr ?_
    simp only [size, all]
    omega
  · obtain ⟨⟨_, inQuotes⟩, _⟩ := foldl_step_quoted afterLines quoted
      (List.all_iff_forall_prop.mp (by decide))
    rw [result, if_pos (.inr inQuotes)] at read
    cases read

theorem size_foldl_betweenLines_of_quoted (quoted : reader.Quoted)
    (leads : LeadsTo (betweenLines.foldl step reader) (appendTokens line))
    (short : GuestShell.size reader.tokens < 8 + line.length) :
    (betweenLines.foldl step reader).size < 24 + line.length := by
  have parts : betweenLines = " /etc/hosts || echo ".toList ++ ['\''] := by decide +kernel
  rw [parts, List.foldl_append] at leads ⊢
  obtain ⟨⟨unescaped, inQuotes⟩, tokens, current⟩ :=
    foldl_step_quoted " /etc/hosts || echo ".toList quoted
      (List.all_iff_forall_prop.mp (by decide))
  generalize " /etc/hosts || echo ".toList.foldl step reader = between at *
  have before := leads.before_foldl
  obtain ⟨text, literal, found, starts⟩ := before.begun (.inr inQuotes)
  have blank : ' ' ∈ text :=
    starts.subset (current ▸ List.mem_append_right _ (by decide))
  obtain ⟨place, rfl⟩ := index_eq_of_blank found blank
  have taken := List.prefix_iff_eq_take.mp before.finished
  have within := starts.length_le
  have next := (follows_step between '\'').size_le
  rw [← tokens] at short
  rcases place with second | sixth
  · rw [second] at taken
    have two : GuestShell.size between.tokens = 8 := by rw [taken]; rfl
    simp only [List.foldl_cons, List.foldl_nil]
    simp only [size, two, unescaped, Bool.toNat_false] at next ⊢
    omega
  · rw [sixth] at taken
    have six : GuestShell.size between.tokens = 24 + text.length := by
      rw [taken]
      simp [appendTokens, bare, Token.text]
      omega
    omega

theorem size_foldl_betweenLines_lt
    (leads : LeadsTo (betweenLines.foldl step (reader.step '\'')) (appendTokens line))
    (short : reader.size < 8 + line.length)
    (backslash : reader.escaped = true → line.getLast? = some '\\') :
    (betweenLines.foldl step (reader.step '\'')).size < 24 + line.length := by
  rcases step_quote_cases reader with
    ⟨unescaped, closed⟩ | ⟨escaped, word, unescaped, text, current⟩ | ⟨unescaped, comment⟩ |
      ⟨quoted, finished⟩
  · have starts := leads.finished
    rw [closed, foldl_betweenLines { reader with mode := .word } unescaped rfl] at starts
    obtain ⟨front, current⟩ := eq_line_of_between starts
    have taken : reader.size = 8 + line.length := by
      simp only [size, show reader.tokens = _ from front, show reader.current = _ from current,
        unescaped]
      rfl
    omega
  · have starts := leads.finished
    rw [foldl_betweenLines _ unescaped word] at starts
    obtain ⟨_, rfl⟩ := eq_line_of_between starts
    simp [current, escaped] at backslash
  · have passed := foldl_step_comment ('\'' :: betweenLines) unescaped comment (by decide)
    rw [← List.foldl_cons, passed]
    omega
  · exact size_foldl_betweenLines_of_quoted quoted leads (by omega)

/-- A command is read part by part: up to the line, the line, what stands between, the line again
and the end. -/
theorem tokens_command (entry : HostsEntry) :
    GuestShell.tokens entry.command =
      (afterLines.foldl step
        ((entry.line.toList.foldl step
          (betweenLines.foldl step
            ((entry.line.toList.foldl step beforeLine).step '\''))).step '\'')).result := by
  have between : "' /etc/hosts || echo '".toList = '\'' :: betweenLines := by decide +kernel
  have after : "' >> /etc/hosts".toList = '\'' :: afterLines := by decide +kernel
  simp only [GuestShell.tokens, HostsEntry.command, String.toList_append, List.foldl_append,
    foldl_beforeLine, between, after, List.foldl_cons]

end Reader

/-- The command is read as the tokens exactly if the line has no single quote. -/
theorem tokens_command_iff (entry : HostsEntry) :
    tokens entry.command = some (appendTokens entry.line.toList) ↔ '\'' ∉ entry.line.toList := by
  rw [Reader.tokens_command]
  generalize entry.line.toList = line
  constructor
  · intro read quote
    have nonempty : line ≠ [] := List.ne_nil_of_mem quote
    -- A quote in the line ends the quotation and is lost, and everything after it is too short.
    have first : (line.foldl Reader.step Reader.beforeLine).size < 8 + line.length :=
      Reader.size_foldl_lt_of_quote rfl rfl quote
    have leads := (Reader.leadsTo_of_result read).before_foldl.before (Reader.follows_step ..)
    have between := Reader.size_foldl_betweenLines_lt leads.before_foldl first
      (Reader.getLast?_of_escaped · nonempty)
    rcases Reader.size_of_result read with ⟨escaped, last⟩ | enough
    · have backslash := Reader.getLast?_of_escaped escaped nonempty
      simp [last] at backslash
    · have second := Reader.size_foldl_le (betweenLines.foldl Reader.step
        ((line.foldl Reader.step Reader.beforeLine).step '\'')) line
      omega
  · intro plain
    have word (tokens : List Token) :
        (line.foldl Reader.step { tokens, mode := .single }).step '\'' =
          { tokens, current := line, mode := .word } := by
      rw [Reader.foldl_step_single rfl rfl plain]
      rfl
    rw [Reader.beforeLine, word, Reader.foldl_betweenLines _ rfl rfl, word,
      Reader.result_afterLines _ rfl rfl]
    rfl

/-! ## What the commands do -/

def hostsFile : List Char := "/etc/hosts".toList

/-- A line that is one line of a text file and means nothing else to the shell, to `grep` or to
`echo`. -/
def Plain (line : List Char) : Prop :=
  TextLine line ∧ '\'' ∉ line ∧ '\\' ∉ line ∧ line.head? ≠ some '-'

instance (line : List Char) : Decidable (Plain line) := inferInstanceAs (Decidable (_ ∧ _))

def withLine (lines : List (List Char)) (line : List Char) : List (List Char) :=
  if lines.contains line then lines else lines ++ [line]

theorem withLine_of_mem {lines : List (List Char)} {line : List Char} (stands : line ∈ lines) :
    withLine lines line = lines :=
  if_pos (List.contains_iff_mem.mpr stands)

theorem withLine_of_not_mem {lines : List (List Char)} {line : List Char} (missing : line ∉ lines) :
    withLine lines line = lines ++ [line] :=
  if_neg (mt List.contains_iff_mem.mp missing)

theorem simpleCommands_appendTokens (line : List Char) :
    simpleCommands (appendTokens line) =
      some [⟨["grep".toList, "-qxF".toList, line, hostsFile], none⟩,
        ⟨["echo".toList, line], some hostsFile⟩] := rfl

section Running

variable {programs : Programs} {files : Files} {hosts : List (List Char)}

theorem run_command (documented : Documented programs) {entry : HostsEntry}
    (plain : Plain entry.line.toList) (text : ∀ line ∈ hosts, TextLine line)
    (shown : files hostsFile = some (complete hosts)) :
    run programs files entry.command =
      some (Function.update files hostsFile
        (some (complete (withLine hosts entry.line.toList)))) := by
  obtain ⟨oneLine, unquoted, noBackslash, noDash⟩ := plain
  have searched := documented.grep _ hostsFile hosts files oneLine noDash (by decide) text shown
  have written := documented.echo _ (Function.update files hostsFile (some (complete hosts)))
    oneLine.2 noDash noBackslash
  rw [run, (tokens_command_iff entry).mpr unquoted, Option.bind_some, simpleCommands_appendTokens,
    Option.map_some]
  by_cases stands : entry.line.toList ∈ hosts
  · simp only [runAlternatives, SimpleCommand.run, searched, stands, withLine_of_mem stands,
      decide_true, if_true, ← shown, Function.update_eq_self]
  · have added : complete (hosts ++ [entry.line.toList]) =
        complete hosts ++ (entry.line.toList ++ ['\n']) := by simp [complete]
    simp only [runAlternatives, SimpleCommand.run, searched, stands, withLine_of_not_mem stands,
      decide_false, Bool.false_eq_true, if_false, if_true, shown, Option.getD_some, written, added]

theorem textLine_withLine {line : List Char} (text : ∀ other ∈ hosts, TextLine other)
    (oneLine : TextLine line) : ∀ other ∈ withLine hosts line, TextLine other := by
  by_cases stands : line ∈ hosts
  · rwa [withLine_of_mem stands]
  · rw [withLine_of_not_mem stands]
    exact List.forall_mem_append.mpr ⟨text, List.forall_mem_singleton.mpr oneLine⟩

theorem runAll_commands (documented : Documented programs) {entries : List HostsEntry}
    (plain : ∀ entry ∈ entries, Plain entry.line.toList) (text : ∀ line ∈ hosts, TextLine line)
    (shown : files hostsFile = some (complete hosts)) :
    runAll programs (HostsEntry.commands entries) files =
      some (Function.update files hostsFile
        (some (complete ((entries.map (·.line.toList)).foldl withLine hosts)))) := by
  induction entries generalizing files hosts with
  | nil => simp [runAll, HostsEntry.commands, ← shown]
  | cons entry entries induction =>
    obtain ⟨first, others⟩ := List.forall_mem_cons.mp plain
    have rest := induction others (textLine_withLine text first.1)
      (Function.update_self hostsFile (some (complete (withLine hosts entry.line.toList))) files)
    rw [Function.update_idem] at rest
    simp only [runAll, HostsEntry.commands, List.map_cons, List.foldlM_cons,
      run_command documented first text shown]
    exact rest

end Running

/-- Adding lines one after the other appends those that are missing, each once. -/
theorem foldl_withLine (hosts lines : List (List Char)) :
    ∃ added, lines.foldl withLine hosts = hosts ++ added ∧ added.Sublist lines ∧ added.Nodup ∧
      (∀ line ∈ added, line ∉ hosts) ∧ ∀ line ∈ lines, line ∈ hosts ++ added := by
  induction lines generalizing hosts with
  | nil => exact ⟨[], by simp⟩
  | cons line lines induction =>
    by_cases stands : line ∈ hosts
    · obtain ⟨added, shown, sublist, nodup, missing, all⟩ := induction hosts
      refine ⟨added, ?_, sublist.cons line, nodup, missing, ?_⟩
      · rw [List.foldl_cons, withLine_of_mem stands, shown]
      · exact List.forall_mem_cons.mpr ⟨List.mem_append_left _ stands, all⟩
    · obtain ⟨added, shown, sublist, nodup, missing, all⟩ := induction (hosts ++ [line])
      refine ⟨line :: added, ?_, sublist.cons_cons line, ?_, ?_, ?_⟩
      · rw [List.foldl_cons, withLine_of_not_mem stands, shown, List.append_assoc,
          List.singleton_append]
      · exact List.nodup_cons.mpr ⟨fun member => missing line member (by simp), nodup⟩
      · exact List.forall_mem_cons.mpr
          ⟨stands, fun other member =>
            fun stands => missing other member (List.mem_append_left _ stands)⟩
      · refine List.forall_mem_cons.mpr ⟨by simp, fun other member => ?_⟩
        simpa using all other member

theorem foldl_withLine_of_all {hosts lines : List (List Char)}
    (all : ∀ line ∈ lines, line ∈ hosts) : lines.foldl withLine hosts = hosts := by
  induction lines with
  | nil => rfl
  | cons line lines induction =>
    obtain ⟨stands, others⟩ := List.forall_mem_cons.mp all
    rw [List.foldl_cons, withLine_of_mem stands, induction others]

/-- The commands of some entries. Each is read as it is meant exactly if its line has no single
quote in it. On a hosts file of complete lines, all of them leave every line there, add nothing else
than the lines that were missing, and change nothing when they are run again. -/
theorem commands_append_missing_lines (entries : List HostsEntry) :
    (∀ entry ∈ entries,
      tokens entry.command = some (appendTokens entry.line.toList) ↔ '\'' ∉ entry.line.toList) ∧
    ∀ (programs : Programs) (files : Files) (hosts : List (List Char)),
      Documented programs → (∀ entry ∈ entries, Plain entry.line.toList) →
      (∀ line ∈ hosts, TextLine line) → files hostsFile = some (complete hosts) →
      ∃ added after,
        runAll programs (HostsEntry.commands entries) files = some after ∧
        after = Function.update files hostsFile (some (complete (hosts ++ added))) ∧
        (∀ entry ∈ entries, entry.line.toList ∈ hosts ++ added) ∧
        added.Sublist (entries.map (·.line.toList)) ∧ added.Nodup ∧ (∀ line ∈ added, line ∉ hosts) ∧
        runAll programs (HostsEntry.commands entries) after = some after := by
  refine ⟨fun entry _ => tokens_command_iff entry, ?_⟩
  intro programs files hosts documented plain text shown
  obtain ⟨added, appended, sublist, nodup, missing, all⟩ :=
    foldl_withLine hosts (entries.map (·.line.toList))
  have oneLine : ∀ line ∈ hosts ++ added, TextLine line := by
    refine List.forall_mem_append.mpr ⟨text, fun line member => ?_⟩
    obtain ⟨entry, of, rfl⟩ := List.mem_map.mp (sublist.subset member)
    exact (plain entry of).1
  have first := runAll_commands documented plain text shown
  have again := runAll_commands documented plain oneLine
    (Function.update_self hostsFile (some (complete (hosts ++ added))) files)
  rw [appended] at first
  rw [foldl_withLine_of_all all, Function.update_idem] at again
  exact ⟨added, _, first, rfl, fun entry of => all _ (List.mem_map_of_mem of), sublist, nodup,
    missing, again⟩

def webAndDatabase : List HostsEntry :=
  [⟨"10.0.0.11", "web.lab.local", "web"⟩, ⟨"10.0.0.12", "db", "db"⟩,
    ⟨"10.0.0.11", "web.lab.local", "web"⟩]

def guestFiles : Files :=
  Function.update (fun _ => none) hostsFile
    (some (complete ["127.0.0.1 localhost".toList, "10.0.0.12 db".toList]))

theorem web_appended_once :
    (∀ entry ∈ webAndDatabase, tokens entry.command = some (appendTokens entry.line.toList)) ∧
    (runAll grepAndEcho (HostsEntry.commands webAndDatabase) guestFiles).map (· hostsFile) =
      some (some (complete
        ["127.0.0.1 localhost".toList, "10.0.0.12 db".toList,
          "10.0.0.11 web.lab.local web".toList])) ∧
    ∃ after, runAll grepAndEcho (HostsEntry.commands webAndDatabase) guestFiles = some after ∧
      runAll grepAndEcho (HostsEntry.commands webAndDatabase) after = some after := by
  obtain ⟨read, runs⟩ := commands_append_missing_lines webAndDatabase
  obtain ⟨added, after, first, _, _, _, _, _, again⟩ :=
    runs grepAndEcho guestFiles ["127.0.0.1 localhost".toList, "10.0.0.12 db".toList]
      documented_grepAndEcho (by decide +kernel) (by decide +kernel) (Function.update_self ..)
  refine ⟨fun entry of => (read entry of).mpr ?_, by decide +kernel, after, first, again⟩
  revert entry
  decide +kernel

def quotedMachine : MachineDeclaration where
  vmName := some "cat's"
  interfaces := [{ address := some "10.0.0.11/24" }]

/-- The quotes are lost and the line falls into two words, so `grep` is called with one file more
and the line that is appended is not the one of the machine. -/
theorem quotes_of_name_lost :
    ∃ machine entry,
      Machine.resolve Machine.stockedEnvironment quotedMachine = .ok machine ∧
      HostsEntry.ofMachines [machine] = [entry] ∧
      entry.line = "10.0.0.11 cat's.lab.local cat's" ∧
      tokens entry.command = some [
        bare "grep", bare "-qxF", bare "10.0.0.11 cats.lab.local", bare "cats",
        bare "/etc/hosts", .operator "||".toList,
        bare "echo", bare "10.0.0.11 cats.lab.local", bare "cats", .operator ">>".toList,
        bare "/etc/hosts"] ∧
      tokens entry.command ≠ some (appendTokens entry.line.toList) :=
  ⟨_, _, rfl, rfl, by decide +kernel, by decide +kernel, by decide +kernel⟩

end VirtualLab.GuestShell
