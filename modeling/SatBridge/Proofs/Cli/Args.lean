import Mathlib
import SatBridge.Cli.Args
import SatBridge.Proofs.Cli.OptionArg

/-!
# Written arguments

Options in their long form are taken one after the other, and every task with its settings can be
written with them. Main statement: what is written for a task, with options that concern every task
before its name and behind it, is read as that task, and of the two sides the later one wins.
-/

set_option autoImplicit false

namespace SatBridge.Cli

def Flag.name : Flag → String
  | .verbose => "verbose"
  | .noModel => "no-model"
  | .verify => "verify"
  | .help => "help"

def Valued.name : Valued → String
  | .library => "library"
  | .backend => "backend"
  | .option => "option"
  | .conflicts => "conflicts"
  | .decisions => "decisions"

def Choice.name : Choice → String
  | .shared => "native"
  | .builtin => "builtin"
  | .resident => "varisat"

inductive Word where
  | flag (switch : Flag)
  | valued (kind : Valued) (text : String)

namespace Word

def written : Word → String
  | .flag switch => "--" ++ switch.name
  | .valued kind text => "--" ++ kind.name ++ "=" ++ text

/-- The options of a task stand behind its name. -/
def Fits (scope : Scope) : Word → Prop
  | .flag .verbose | .flag .help | .valued .library _ | .valued .backend _ => True
  | .flag .noModel | .flag .verify | .valued .option _ | .valued .conflicts _
  | .valued .decisions _ => scope = .solve

def take (given : Given) : Word → Except Usage Given
  | .flag switch => given.takeFlag switch
  | .valued kind text => given.takeValue kind text

end Word

section Reading

variable {scope : Scope} {given : Given}

theorem ofText_long {text : String} {rest : List Char} (shape : text.toList = '-' :: '-' :: rest)
    (filled : rest ≠ []) :
    Form.ofText text = .long (String.ofList (OptionArg.splitAtEquals rest).1)
      ((OptionArg.splitAtEquals rest).2.map String.ofList) := by
  unfold Form.ofText
  rw [shape]
  cases rest with
  | nil => exact absurd rfl filled
  | cons c rest => rfl

theorem ofText_flag (switch : Flag) :
    Form.ofText (Word.flag switch).written = .long switch.name none := by
  have plain : '=' ∉ switch.name.toList := by cases switch <;> decide +kernel
  have filled : switch.name.toList ≠ [] := by cases switch <;> decide +kernel
  have shape : (Word.flag switch).written.toList = '-' :: '-' :: switch.name.toList := by
    simp [Word.written]
  rw [ofText_long shape filled, OptionArg.splitAtEquals_of_plain plain]
  simp

theorem ofText_valued (kind : Valued) (text : String) :
    Form.ofText (Word.valued kind text).written = .long kind.name (some text) := by
  have plain : '=' ∉ kind.name.toList := by cases kind <;> decide +kernel
  have shape : (Word.valued kind text).written.toList =
      '-' :: '-' :: (kind.name.toList ++ '=' :: text.toList) := by
    simp [Word.written]
  rw [ofText_long shape (by simp), OptionArg.splitAtEquals_append plain]
  simp

theorem flag?_name {switch : Flag} (fits : (Word.flag switch).Fits scope) :
    scope.flag? switch.name = some switch := by
  cases switch <;> simp_all [Scope.flag?, Flag.name, Word.Fits]

theorem valued?_name {kind : Valued} {text : String} (fits : (Word.valued kind text).Fits scope) :
    scope.valued? kind.name = some kind := by
  cases kind <;> simp_all [Scope.valued?, Valued.name, Word.Fits]

theorem readScope_word {word : Word} (fits : word.Fits scope) (rest : List String) :
    readScope scope given (word.written :: rest) =
      (word.take given).bind fun given => readScope scope given rest := by
  rw [readScope.eq_def]
  cases word with
  | flag switch =>
      simp only [ofText_flag, flag?_name fits]
      rfl
  | valued kind text =>
      simp only [ofText_valued, valued?_name fits]
      rfl

/-- Options in their long form are taken from left to right, up to the first that is refused. -/
theorem readScope_words {words : List Word} (fit : ∀ word ∈ words, word.Fits scope)
    (rest : List String) :
    readScope scope given (words.map Word.written ++ rest) =
      (words.foldlM Word.take given).bind fun given => readScope scope given rest := by
  induction words generalizing given with
  | nil => rfl
  | cons word words ih =>
      have fitLater : ∀ word ∈ words, word.Fits scope := fun other member =>
        fit other (List.mem_cons_of_mem _ member)
      rw [List.map_cons, List.cons_append, readScope_word (fit word List.mem_cons_self),
        List.foldlM_cons]
      simp only [ih fitLater]
      cases word.take given <;> rfl

/-- A value may stand behind its option as well, unless it looks like an option itself. -/
theorem readScope_value_behind {kind : Valued} {text : String}
    (fits : (Word.valued kind text).Fits scope) (plain : Form.ofText text = .plain)
    (rest : List String) :
    readScope scope given (("--" ++ kind.name) :: text :: rest) =
      readScope scope given ((Word.valued kind text).written :: rest) := by
  have unequal : '=' ∉ kind.name.toList := by cases kind <;> decide +kernel
  have filled : kind.name.toList ≠ [] := by cases kind <;> decide +kernel
  have shape : ("--" ++ kind.name).toList = '-' :: '-' :: kind.name.toList := by simp
  have form : Form.ofText ("--" ++ kind.name) = .long kind.name none := by
    rw [ofText_long shape filled, OptionArg.splitAtEquals_of_plain unequal]
    simp
  have noFlag : scope.flag? kind.name = none := by
    cases kind <;> rfl
  rw [readScope_word fits, readScope.eq_def]
  simp only [form, noFlag, valued?_name fits, plain, if_true]
  rfl

end Reading

/-- What is said on one side of the name of a task about every task. -/
structure Common where
  library : Option String
  backend : Option Choice
  verbosity : Nat

def Common.words (c : Common) : List Word :=
  c.library.toList.map (.valued .library) ++
    (c.backend.toList.map (fun backend => .valued .backend backend.name) ++
      List.replicate c.verbosity (.flag .verbose))

def limitText (limit : Nat) : String :=
  String.ofList (Text.Decimal.ofNat limit)

def settingWords (s : Settings) : List Word :=
  s.options.map (fun (name, value) => .valued .option (OptionArg.canonical name value)) ++
    (s.conflictLimit.toList.map (fun limit => .valued .conflicts (limitText limit)) ++
      (s.decisionLimit.toList.map (fun limit => .valued .decisions (limitText limit)) ++
        ((if s.printModel then [] else [.flag .noModel]) ++
          if s.verify then [.flag .verify] else [])))

structure ProperSettings (s : Settings) : Prop where
  options : ∀ setting ∈ s.options, OptionArg.Proper setting.1 setting.2
  conflicts : ∀ limit, s.conflictLimit = some limit → limit < 4294967296
  decisions : ∀ limit, s.decisionLimit = some limit → limit < 4294967296

section Taking

variable {given : Given}

theorem take_replicate_verbose (count : Nat) :
    (List.replicate count (Word.flag .verbose)).foldlM Word.take given =
      .ok { given with verbosity := given.verbosity + count } := by
  induction count generalizing given with
  | zero => rfl
  | succ count ih =>
      have first : Word.take given (.flag .verbose) =
          .ok { given with verbosity := given.verbosity + 1 } := rfl
      rw [List.replicate_succ, List.foldlM_cons, first]
      refine ih.trans ?_
      simp only [Nat.add_assoc, Nat.add_comm 1]

theorem take_append {words more : List Word} {next : Given}
    (taken : words.foldlM Word.take given = .ok next) :
    (words ++ more).foldlM Word.take given = more.foldlM Word.take next := by
  rw [List.foldlM_append, taken]
  rfl

theorem take_optional {α : Type} {value : Option α} {word : α → Word} (set : Option α → Given)
    (absent : set none = given)
    (present : ∀ a, value = some a → (word a).take given = .ok (set (some a))) :
    (value.toList.map word).foldlM Word.take given = .ok (set value) := by
  cases value with
  | none => exact congrArg Except.ok absent.symm
  | some a =>
      rw [Option.toList_some, List.map_singleton, List.foldlM_cons, present a rfl]
      rfl

theorem ofName?_name (choice : Choice) : Choice.ofName? choice.name = some choice := by
  cases choice <;> rfl

theorem take_common {c : Common} (filled : c.library ≠ some "") :
    c.words.foldlM Word.take .nothing =
      .ok { Given.nothing with
        library := c.library, backend := c.backend, verbosity := c.verbosity } := by
  have library : (c.library.toList.map (Word.valued .library)).foldlM Word.take .nothing =
      .ok { Given.nothing with library := c.library } := by
    refine take_optional (fun library => { Given.nothing with library }) rfl ?_
    intro path given
    have named : path.isEmpty = false := by
      rw [given] at filled
      simpa using filled
    simp only [Word.take, Given.takeValue, named]
    rfl
  have backend : (c.backend.toList.map fun backend => Word.valued .backend backend.name).foldlM
      Word.take { Given.nothing with library := c.library } =
      .ok { Given.nothing with library := c.library, backend := c.backend } := by
    refine take_optional
      (fun backend => { Given.nothing with library := c.library, backend }) rfl ?_
    intro choice _
    simp only [Word.take, Given.takeValue, ofName?_name]
    rfl
  rw [Common.words, take_append library, take_append backend, take_replicate_verbose]
  simp only [Given.nothing, Nat.zero_add]

theorem limit?_limitText {limit : Nat} (bounded : limit < 4294967296) :
    Given.limit? (limitText limit) = some limit := by
  have read : Text.Decimal.signed? (Text.Decimal.ofNat limit) = some (limit : Int) :=
    Text.Decimal.signed?_ofInt limit
  simp only [Given.limit?, limitText, String.toList_ofList, read]
  simp
  omega

theorem take_options {options : List (String × Int)}
    (proper : ∀ setting ∈ options, OptionArg.Proper setting.1 setting.2) :
    (options.map fun (name, value) =>
        Word.valued .option (OptionArg.canonical name value)).foldlM Word.take given =
      .ok { given with options := options.reverse ++ given.options } := by
  induction options generalizing given with
  | nil => rfl
  | cons setting options ih =>
      have read := OptionArg.parse_canonical (proper setting List.mem_cons_self)
      have first : Word.take given (.valued .option (OptionArg.canonical setting.1 setting.2)) =
          .ok { given with options := setting :: given.options } := by
        simp only [Word.take, Given.takeValue, read]
      rw [List.map_cons, List.foldlM_cons, first]
      refine (ih fun other member => proper other (List.mem_cons_of_mem _ member)).trans ?_
      simp

/-- Behind the options of every task, those of a formula are taken as they were written. -/
theorem take_settings {s : Settings} (proper : ProperSettings s) (given : Given)
    (unset : given.options = [] ∧ given.conflicts = none ∧ given.decisions = none ∧
      given.noModel = false ∧ given.verify = false) :
    (settingWords s).foldlM Word.take given =
      .ok { given with
        options := s.options.reverse
        conflicts := s.conflictLimit
        decisions := s.decisionLimit
        noModel := !s.printModel
        verify := s.verify } := by
  obtain ⟨library, backend, verbosity, _, _, _, _, _, path⟩ := given
  obtain ⟨rfl, rfl, rfl, rfl, rfl⟩ := unset
  have conflicts : (s.conflictLimit.toList.map fun limit =>
      Word.valued .conflicts (limitText limit)).foldlM Word.take
        ⟨library, backend, verbosity, s.options.reverse, none, none, false, false, path⟩ =
      .ok ⟨library, backend, verbosity, s.options.reverse, s.conflictLimit, none, false, false,
        path⟩ := by
    refine take_optional (fun limit =>
      ⟨library, backend, verbosity, s.options.reverse, limit, none, false, false, path⟩) rfl ?_
    intro limit given
    simp only [Word.take, Given.takeValue, limit?_limitText (proper.conflicts limit given)]
    rfl
  have decisions : (s.decisionLimit.toList.map fun limit =>
      Word.valued .decisions (limitText limit)).foldlM Word.take
        ⟨library, backend, verbosity, s.options.reverse, s.conflictLimit, none, false, false,
          path⟩ =
      .ok ⟨library, backend, verbosity, s.options.reverse, s.conflictLimit, s.decisionLimit, false,
        false, path⟩ := by
    refine take_optional (fun limit => ⟨library, backend, verbosity, s.options.reverse,
      s.conflictLimit, limit, false, false, path⟩) rfl ?_
    intro limit given
    simp only [Word.take, Given.takeValue, limit?_limitText (proper.decisions limit given)]
    rfl
  rw [settingWords, take_append (take_options proper.options), List.append_nil,
    take_append conflicts, take_append decisions]
  cases s.printModel <;> cases s.verify <;> rfl

end Taking

/-! Tasks. -/

def Task.scope : Task → Scope
  | .demo => .demo
  | .solve .. => .solve
  | .signature => .signature

def Scope.name : Scope → String
  | .top => ""
  | .demo => "demo"
  | .solve => "solve"
  | .signature => "signature"

def Task.words : Task → List Word
  | .solve _ settings => settingWords settings
  | _ => []

def Task.operands : Task → List String
  | .solve path _ => ["--", path]
  | _ => []

def Task.Proper : Task → Prop
  | .solve _ settings => ProperSettings settings
  | _ => True

/-- The arguments for a task, with options for every task before its name and behind it. -/
def written (before behind : Common) (task : Task) : List String :=
  before.words.map Word.written ++
    task.scope.name :: ((behind.words ++ task.words).map Word.written ++ task.operands)

section Writing

variable {before behind c : Common} {task : Task}

theorem fits_of_mem_words (scope : Scope) : ∀ word ∈ c.words, word.Fits scope := by
  intro word member
  simp only [Common.words, List.mem_append, List.mem_map, List.mem_replicate] at member
  rcases member with ⟨_, _, rfl⟩ | ⟨_, _, rfl⟩ | ⟨_, rfl⟩ <;> trivial

theorem fits_of_mem_settingWords {s : Settings} : ∀ word ∈ settingWords s, word.Fits .solve := by
  intro word member
  simp only [settingWords, List.mem_append, List.mem_map] at member
  rcases member with ⟨_, _, rfl⟩ | ⟨_, _, rfl⟩ | ⟨_, _, rfl⟩ | member | member
  · rfl
  · rfl
  · rfl
  all_goals
    split at member
    all_goals cases member <;> trivial

theorem fits_of_mem_taskWords : ∀ word ∈ task.words, word.Fits task.scope := by
  cases task with
  | solve path settings => exact fits_of_mem_settingWords
  | demo => exact fun _ member => by cases member
  | signature => exact fun _ member => by cases member

theorem readScope_name (task : Task) (given : Given) (rest : List String) :
    readScope .top given (task.scope.name :: rest) = .ok (given, some (task.scope, rest)) := by
  have plain : Form.ofText task.scope.name = .plain := by
    cases task <;> simp [Task.scope, Scope.name, Form.ofText]
  have known : Scope.ofName? task.scope.name = some task.scope := by cases task <;> rfl
  rw [readScope.eq_def]
  simp only [plain, known]

/-- Behind the name, the options for every task are kept and the task is understood. -/
theorem readScope_behind (proper : task.Proper) (filled : c.library ≠ some "") :
    ∃ given, readScope task.scope .nothing
        ((c.words ++ task.words).map Word.written ++ task.operands) = .ok (given, none) ∧
      given.library = c.library ∧ given.backend = c.backend ∧ given.verbosity = c.verbosity ∧
      taskOf? task.scope given = some task := by
  have fit : ∀ word ∈ c.words ++ task.words, word.Fits task.scope := by
    intro word member
    exact (List.mem_append.mp member).elim (fits_of_mem_words task.scope word)
      (fits_of_mem_taskWords word)
  rw [readScope_words fit, take_append (take_common filled)]
  cases task with
  | demo => exact ⟨_, rfl, rfl, rfl, rfl, rfl⟩
  | signature => exact ⟨_, rfl, rfl, rfl, rfl, rfl⟩
  | solve path settings =>
      have taken := take_settings proper
        { Given.nothing with library := c.library, backend := c.backend, verbosity := c.verbosity }
        ⟨rfl, rfl, rfl, rfl, rfl⟩
      simp only [Task.words, taken]
      refine ⟨_, rfl, rfl, rfl, rfl, ?_⟩
      simp [taskOf?, Task.scope]

/-- What is written is read, and of the two sides the later one wins. -/
theorem parse_written (proper : task.Proper) (filledBefore : before.library ≠ some "")
    (filledBehind : behind.library ≠ some "") :
    Args.parse (written before behind task) = .ok {
      library := behind.library <|> before.library
      backend := (behind.backend <|> before.backend).getD .shared
      verbosity := if behind.verbosity = 0 then before.verbosity else behind.verbosity
      task } := by
  obtain ⟨given, read, library, backend, verbosity, understood⟩ :=
    readScope_behind proper filledBehind
  have top : readScope .top .nothing (written before behind task) = .ok
      ({ Given.nothing with
          library := before.library, backend := before.backend, verbosity := before.verbosity },
        some (task.scope, (behind.words ++ task.words).map Word.written ++ task.operands)) := by
    rw [written, readScope_words (fits_of_mem_words .top), take_common filledBefore]
    exact readScope_name task _ _
  simp only [Args.parse, top, bind, Except.bind]
  simp only [read, understood, library, backend, verbosity]
  rfl

/-- Every task with proper settings is that of the arguments written for it. -/
theorem parse_written_args {a : Args} (proper : a.task.Proper) (filled : a.library ≠ some "") :
    Args.parse (written ⟨a.library, some a.backend, a.verbosity⟩ ⟨none, none, 0⟩ a.task) =
      .ok a := by
  rw [parse_written proper filled (by simp)]
  simp

end Writing

end SatBridge.Cli
