import Mathlib.Data.List.TakeWhile
import Gatehouse.CommandLine.Invocation
import Gatehouse.Proofs.Result

/-!
# The administrator that a command line asks for

`Written` says which words are a command line: options, each given once and with a value, either in
the word after it or attached with `=`, and perhaps the name of a command with what follows it.
These are the words that are read (`reads_iff_written`), so it is known which options each accepted
line gives (`read_eq_seed_iff`).

Of an administrator's address and password only the address requires the other: every line that
gives an address gives a password as well, and asks for the administrator with both. A line with a
password alone is accepted too. It asks for no administrator, and the password goes nowhere
(`administrator_exactly_with_address`).
-/

namespace Gatehouse.CommandLine

variable {g : Grammar} {s u : Scan} {given all : List (String × String)}
  {named : Option (String × List String)} {name value word : String} {words : List String}

/-! ## Words by their forms -/

/-- A word after two hyphens in two parts, of which the second begins with the first `=`. -/
theorem ofString_hyphens {front back : List Char}
    (h : word.toList = '-' :: '-' :: (front ++ back)) (hne : front ++ back ≠ [])
    (hfront : '=' ∉ front) (hback : ∀ c ∈ back.head?, c = '=') :
    Word.ofString word = .long (String.ofList front)
      (if back = [] then none else some (String.ofList back.tail)) := by
  have hall : ∀ c ∈ front, decide (c ≠ '=') = true :=
    fun c hc => decide_eq_true fun he => hfront (he ▸ hc)
  have hstop : back.takeWhile (fun c => decide (c ≠ '=')) = [] := by
    cases back with
    | nil => rfl
    | cons c back => simp [hback c rfl]
  have htake : (front ++ back).takeWhile (fun c => decide (c ≠ '=')) = front := by
    rw [List.takeWhile_append_of_pos hall, hstop, List.append_nil]
  have hdrop : (front ++ back).drop front.length = back := List.drop_left' rfl
  unfold Word.ofString
  rw [h]
  generalize front ++ back = cs at *
  obtain ⟨c, cs', rfl⟩ := List.exists_cons_of_ne_nil hne
  simp only [htake, hdrop]
  cases back with
  | nil => rfl
  | cons c back =>
    obtain rfl := hback c rfl
    rfl

theorem ofString_flag (h : name ≠ "") (h' : '=' ∉ name.toList) :
    Word.ofString ("--" ++ name) = .long name none := by
  have hne : name.toList ++ [] ≠ [] := by simpa using h
  have hchars : ("--" ++ name).toList = '-' :: '-' :: (name.toList ++ []) := by
    simp [String.toList_append]
  rw [ofString_hyphens hchars hne h' nofun, String.ofList_toList, if_pos rfl]

theorem ofString_attached (h : '=' ∉ name.toList) :
    Word.ofString ("--" ++ name ++ "=" ++ value) = .long name (some value) := by
  have hchars : ("--" ++ name ++ "=" ++ value).toList =
      '-' :: '-' :: (name.toList ++ '=' :: value.toList) := by
    simp [String.toList_append]
  rw [ofString_hyphens hchars (by simp) h (by simp), String.ofList_toList, if_neg nofun,
    List.tail_cons, String.ofList_toList]

/-- What a word of each form is. -/
def Word.Spells (word : String) : Word → Prop
  | .escape => word = "--"
  | .long name value => word = "--" ++ name ++ value.elim "" ("=" ++ ·)
  | .short letter => ∃ rest, word.toList = '-' :: letter :: rest
  | .plain text => word = text

theorem spells_of_form {form : Word} (h : Word.ofString word = form) : form.Spells word := by
  subst h
  by_cases hlong : ∃ cs, word.toList = '-' :: '-' :: cs ∧ cs ≠ []
  · obtain ⟨cs, hcs, hne⟩ := hlong
    have hparts := List.takeWhile_append_dropWhile (p := fun c => decide (c ≠ '=')) (l := cs)
    have hfront : '=' ∉ cs.takeWhile fun c => decide (c ≠ '=') :=
      fun hm => by simpa using List.mem_takeWhile_imp hm
    have hback : ∀ c ∈ (cs.dropWhile fun c => decide (c ≠ '=')).head?, c = '=' := by
      intro c hc
      have hhead := List.head?_dropWhile_not (fun c => decide (c ≠ '=')) cs
      rw [Option.mem_def.1 hc] at hhead
      simpa using hhead
    generalize cs.takeWhile (fun c => decide (c ≠ '=')) = front at *
    generalize cs.dropWhile (fun c => decide (c ≠ '=')) = back at *
    subst hparts
    rw [ofString_hyphens hcs hne hfront hback]
    refine String.toList_inj.1 (hcs.trans ?_)
    cases back with
    | nil => simp [String.toList_append]
    | cons c back =>
      obtain rfl := hback c rfl
      simp [String.toList_append]
  · unfold Word.ofString
    split
    · exact String.toList_inj.1 ‹_›
    · rename_i cs hne hcs
      exact (hlong ⟨cs, hcs, hne⟩).elim
    · exact ⟨_, ‹_›⟩
    · rfl

/-! ## Options that are complete -/

theorem lookup_isSome_iff : (given.lookup name).isSome ↔ name ∈ given.map Prod.fst := by
  simp only [List.lookup_isSome_iff, beq_iff_eq, List.mem_map]
  exact exists_congr fun _ => and_congr_right fun _ => eq_comm

theorem add_eq_ok_iff :
    s.add name value = .ok u ↔
      name ∉ s.given.map Prod.fst ∧ u = ⟨(name, value) :: s.given, none⟩ := by
  unfold Scan.add
  split
  · rename_i hused
    exact iff_of_false nofun fun h => h.1 (lookup_isSome_iff.1 hused)
  · rename_i hnew
    rw [lookup_isSome_iff] at hnew
    simp only [Except.ok.injEq, eq_comm, hnew, not_false_eq_true, true_and]

theorem settle_eq_ok_iff :
    s.settle = .ok u ↔ s.begun = none ∧ u = s ∨
      ∃ name value, s.begun = some (name, some value) ∧ s.add name value = .ok u := by
  obtain ⟨given, begun⟩ := s
  match begun with
  | none => simp [Scan.settle, eq_comm]
  | some (name, none) => simp [Scan.settle]
  | some (name, some value) =>
    simp only [Scan.settle, reduceCtorEq, false_and, false_or]
    constructor
    · intro h
      exact ⟨name, value, rfl, h⟩
    · rintro ⟨_, _, ⟨⟩, h⟩
      exact h

theorem settle_of_begun (h : s.begun = none) : s.settle = .ok s :=
  settle_eq_ok_iff.2 (.inl ⟨h, rfl⟩)

theorem begun_of_settle (h : s.settle = .ok u) : u.begun = none := by
  obtain ⟨hb, rfl⟩ | ⟨name, value, -, hadd⟩ := settle_eq_ok_iff.1 h
  · exact hb
  · obtain ⟨-, rfl⟩ := add_eq_ok_iff.1 hadd
    rfl

theorem begun_of_awaits (h : s.awaits = some name) : s.begun = some (name, none) := by
  unfold Scan.awaits at h
  split at h
  · rename_i hb
    cases h
    exact hb
  · cases h

theorem awaits_of_settle (h : s.settle = .ok u) : s.awaits = none := by
  unfold Scan.awaits
  obtain ⟨hb, -⟩ | ⟨name, value, hb, -⟩ := settle_eq_ok_iff.1 h <;> rw [hb]

/-! ## Command lines -/

/-- Whether words are a command line: after the options that are `given` already, they give all
options, each one once, and perhaps end with the name of a command and what is left to that. -/
inductive Written (g : Grammar) :
    List (String × String) → List String → List (String × String) →
      Option (String × List String) → Prop where
  | done {given : List (String × String)} : Written g given [] given none
  | escape {given : List (String × String)} : Written g given ["--"] given none
  | command {given : List (String × String)} {word : String} {words : List String}
      (h : g.namesCommand word) : Written g given (word :: words) given (some (word, words))
  | attached {given all : List (String × String)} {name value : String} {words : List String}
      {named : Option (String × List String)} (hname : name ∈ g.options)
      (hnew : name ∉ given.map Prod.fst) (h : Written g ((name, value) :: given) words all named) :
      Written g given (("--" ++ name ++ "=" ++ value) :: words) all named
  | apart {given all : List (String × String)} {name value : String} {words : List String}
      {named : Option (String × List String)} (hname : name ∈ g.options)
      (hnew : name ∉ given.map Prod.fst) (hvalue : Word.ofString value = .plain value)
      (h : Written g ((name, value) :: given) words all named) :
      Written g given (("--" ++ name) :: value :: words) all named

/-- Whether no name of an option is empty or has an `=`, and the names of commands are plain
words. -/
structure Grammar.Clear (g : Grammar) : Prop where
  options : ∀ name ∈ g.options, name ≠ "" ∧ '=' ∉ name.toList
  commands : ∀ word, g.namesCommand word → Word.ofString word = .plain word

/-- Whether words after a scan are read, to all options and a command perhaps. -/
def Reads (g : Grammar) (s : Scan) (words : List String) (all : List (String × String))
    (named : Option (String × List String)) : Prop :=
  ∃ s', scan g s words = .ok (s', named) ∧ s'.settle = .ok ⟨all, none⟩

/-- Whether words go on with an option that may have been begun. -/
def Continues (g : Grammar) (s : Scan) (words : List String) (all : List (String × String))
    (named : Option (String × List String)) : Prop :=
  match s.begun with
  | none => Written g s.given words all named
  | some (name, some value) =>
    name ∉ s.given.map Prod.fst ∧ Written g ((name, value) :: s.given) words all named
  | some (name, none) =>
    name ∉ s.given.map Prod.fst ∧ ∃ value rest, words = value :: rest ∧
      Word.ofString value = .plain value ∧ Written g ((name, value) :: s.given) rest all named

theorem continues_of_settle (h : s.settle = .ok u) (hw : Written g u.given words all named) :
    Continues g s words all named := by
  unfold Continues
  obtain ⟨hb, rfl⟩ | ⟨name, value, hb, hadd⟩ := settle_eq_ok_iff.1 h
  · rw [hb]
    exact hw
  · obtain ⟨hnew, rfl⟩ := add_eq_ok_iff.1 hadd
    rw [hb]
    exact ⟨hnew, hw⟩

/-- What is read is a command line. -/
theorem continues_of_reads (h : Reads g s words all named) : Continues g s words all named := by
  obtain ⟨s', hscan, hsettle⟩ := h
  -- the cases left out are those where the scan is refused at once
  fun_induction scan g s words with
  | case1 s =>
    obtain ⟨u, hu, he⟩ := exists_of_map_eq_ok hscan
    obtain ⟨rfl, rfl⟩ := Prod.mk.inj he
    have hall := settle_of_begun (begun_of_settle hu) ▸ hsettle
    cases hall
    exact continues_of_settle hu .done
  | case2 s word words hcommand =>
    obtain ⟨rfl, rfl⟩ := Prod.mk.inj (Except.ok.inj hscan)
    exact continues_of_settle hsettle (.command (Bool.and_eq_true_iff.1 hcommand).2)
  | case3 s word words _ hform =>
    obtain rfl : word = "--" := spells_of_form hform
    cases words with
    | cons => cases hscan
    | nil =>
      obtain ⟨u, hu, he⟩ := exists_of_map_eq_ok hscan
      obtain ⟨rfl, rfl⟩ := Prod.mk.inj he
      have hall := settle_of_begun (begun_of_settle hu) ▸ hsettle
      cases hall
      exact continues_of_settle hu .escape
  | case5 s word words _ name hname u hu hform ih =>
    obtain ⟨hnew, value, rest, rfl, hvalue, hw⟩ := ih hscan
    obtain rfl : word = "--" ++ name ++ "" := spells_of_form hform
    rw [String.append_empty]
    exact continues_of_settle hu (.apart hname hnew hvalue hw)
  | case7 s word words _ name hname u hu value u' hadd hform ih =>
    obtain ⟨hnew, rfl⟩ := add_eq_ok_iff.1 hadd
    have hw : Written g ((name, value) :: u.given) words all named := ih hscan
    obtain rfl : word = "--" ++ name ++ ("=" ++ value) := spells_of_form hform
    rw [← String.append_assoc]
    exact continues_of_settle hu (.attached hname hnew hw)
  | case14 s word words _ text hform name hawaits ih =>
    obtain ⟨hnew, hw⟩ := ih hscan
    obtain rfl : word = text := spells_of_form hform
    rw [Continues, begun_of_awaits hawaits]
    exact ⟨hnew, word, words, rfl, hform, hw⟩
  | _ => cases hscan

/-! ## Reading a command line -/

theorem scan_command (h : s.awaits = none) (hword : g.namesCommand word) :
    scan g s (word :: words) = .ok (s, some (word, words)) := by
  rw [scan, h, hword]
  rfl

/-- Only a plain word names a command. -/
theorem Grammar.Clear.namesCommand_eq_false (hg : g.Clear) {form : Word}
    (h : Word.ofString word = form) (hform : form ≠ .plain word) :
    g.namesCommand word = false :=
  Bool.eq_false_iff.2 fun hc => hform (h.symm.trans (hg.commands word hc))

theorem Grammar.Clear.scan_escape (hg : g.Clear) (hs : s.settle = .ok u) :
    scan g s ["--"] = .ok (u, none) := by
  have hform : Word.ofString "--" = .escape := rfl
  rw [scan, hg.namesCommand_eq_false hform nofun, Bool.and_false, if_neg Bool.false_ne_true, hform]
  simp only [scanTrailing, hs, Except.map]

theorem Grammar.Clear.scan_attached (hg : g.Clear) (hname : name ∈ g.options)
    (hs : s.settle = .ok u) (hnew : name ∉ u.given.map Prod.fst) :
    scan g s (("--" ++ name ++ "=" ++ value) :: words) =
      scan g ⟨(name, value) :: u.given, none⟩ words := by
  have hform : Word.ofString ("--" ++ name ++ "=" ++ value) = .long name (some value) :=
    ofString_attached (hg.options name hname).2
  have hadd : u.add name value = .ok _ := add_eq_ok_iff.2 ⟨hnew, rfl⟩
  rw [scan, hg.namesCommand_eq_false hform nofun, Bool.and_false, if_neg Bool.false_ne_true, hform]
  simp only [if_pos hname, hs, hadd]

theorem Grammar.Clear.scan_apart (hg : g.Clear) (hname : name ∈ g.options)
    (hs : s.settle = .ok u) (hvalue : Word.ofString value = .plain value) :
    scan g s (("--" ++ name) :: value :: words) =
      scan g ⟨u.given, some (name, some value)⟩ words := by
  obtain ⟨hne, hno⟩ := hg.options name hname
  have hform := ofString_flag hne hno
  rw [scan, hg.namesCommand_eq_false hform nofun, Bool.and_false, if_neg Bool.false_ne_true, hform]
  simp only [if_pos hname, hs]
  rw [scan]
  simp only [Scan.awaits, Option.isNone_some, Bool.false_and, Bool.false_eq_true, if_false, hvalue]

/-- A command line is read. -/
theorem Written.reads (hg : g.Clear) (h : Written g given words all named) :
    ∀ s, s.settle = .ok ⟨given, none⟩ → Reads g s words all named := by
  induction h with
  | done =>
    intro s hs
    refine ⟨_, ?_, settle_of_begun rfl⟩
    rw [scan, hs]
    rfl
  | escape =>
    intro s hs
    exact ⟨_, hg.scan_escape hs, settle_of_begun rfl⟩
  | command h =>
    intro s hs
    exact ⟨s, scan_command (awaits_of_settle hs) h, hs⟩
  | attached hname hnew h ih =>
    intro s hs
    obtain ⟨s', hscan, hall⟩ := ih _ (settle_of_begun rfl)
    exact ⟨s', (hg.scan_attached hname hs hnew).trans hscan, hall⟩
  | apart hname hnew hvalue h ih =>
    intro s hs
    obtain ⟨s', hscan, hall⟩ := ih ⟨_, some (_, some _)⟩ (add_eq_ok_iff.2 ⟨hnew, rfl⟩)
    exact ⟨s', (hg.scan_apart hname hs hvalue).trans hscan, hall⟩

theorem reads_iff_written (hg : g.Clear) :
    Reads g .start words all named ↔ Written g [] words all named :=
  ⟨continues_of_reads, fun h => h.reads hg .start rfl⟩

/-- A scan ends after all its options, or with a command. -/
theorem scan_ends (h : scan g s words = .ok (u, named)) :
    named = none ∧ u.begun = none ∨
      ∃ word rest, named = some (word, rest) ∧ g.namesCommand word := by
  fun_induction scan g s words with
  | case1 s =>
    obtain ⟨u', hu, he⟩ := exists_of_map_eq_ok h
    obtain ⟨rfl, rfl⟩ := Prod.mk.inj he
    exact .inl ⟨rfl, begun_of_settle hu⟩
  | case2 s word words hcommand =>
    obtain ⟨rfl, rfl⟩ := Prod.mk.inj (Except.ok.inj h)
    exact .inr ⟨word, words, rfl, (Bool.and_eq_true_iff.1 hcommand).2⟩
  | case3 s word words _ hform =>
    cases words with
    | cons => cases h
    | nil =>
      obtain ⟨u', hu, he⟩ := exists_of_map_eq_ok h
      obtain ⟨rfl, rfl⟩ := Prod.mk.inj he
      exact .inl ⟨rfl, begun_of_settle hu⟩
  | case5 _ _ _ _ _ _ _ _ _ ih => exact ih h
  | case7 _ _ _ _ _ _ _ _ _ _ _ _ ih => exact ih h
  | case14 _ _ _ _ _ _ _ _ ih => exact ih h
  | _ => cases h

/-! ## Seeding -/

theorem clear_programGrammar : programGrammar.Clear where
  options := by decide
  commands word h := by
    have hword : word = "serve" ∨ word = "seed" ∨ word = "help" := by
      simpa [programGrammar, Grammar.namesCommand, or_assoc] using h
    obtain rfl | rfl | rfl := hword <;> rfl

theorem clear_seedGrammar : seedGrammar.Clear where
  options := by decide
  commands word h := by simp [seedGrammar, Grammar.namesCommand] at h

/-- Options for seeding from a command line and from variables. -/
def SeedOptions.supplied (given vars : List (String × String)) : SeedOptions where
  email := (given.lookup "admin-email").or (vars.lookup "USERSVC_SEED_ADMIN_EMAIL")
  password := (given.lookup "admin-password").or (vars.lookup "USERSVC_SEED_ADMIN_PASSWORD")
  name := (given.lookup "admin-name").getD "Administrator"

/-- Whether words name seeding, after options of the program and before options for seeding. -/
inductive SeedLine : List String → List (String × String) → List (String × String) → Prop where
  | line {words rest : List String} {front given : List (String × String)}
      (hfront : Written programGrammar [] words front (some ("seed", rest)))
      (hrest : Written seedGrammar [] rest given none) : SeedLine words front given

variable {vars front : List (String × String)} {o : SeedOptions} {env : String}

/-- Options for seeding are taken if a password is with the address. -/
theorem readSeed_eq_ok_iff_of_scan (h : scan seedGrammar .start words = .ok (s, named)) :
    readSeed vars words = .ok o ↔
      o = .supplied s.given vars ∧ (o.email.isSome → o.password.isSome) := by
  have hread : readSeed vars words =
      if (SeedOptions.supplied s.given vars).email.isSome ∧
          (SeedOptions.supplied s.given vars).password.isNone then
        .error .missingRequiredArgument
      else .ok (.supplied s.given vars) := by
    rw [readSeed, h]
    rfl
  rw [hread]
  split
  · rename_i hmissing
    refine iff_of_false nofun ?_
    rintro ⟨rfl, hpassword⟩
    have hnone := Option.isNone_iff_eq_none.1 hmissing.2
    exact Option.isSome_iff_ne_none.1 (hpassword hmissing.1) hnone
  · rename_i hgiven
    have hpassword : (SeedOptions.supplied s.given vars).email.isSome →
        (SeedOptions.supplied s.given vars).password.isSome := by
      intro hemail
      by_contra hno
      exact hgiven ⟨hemail, by simpa using hno⟩
    constructor
    · rintro ⟨⟩
      exact ⟨rfl, hpassword⟩
    · rintro ⟨rfl, -⟩
      rfl

theorem readSeed_eq_ok_iff :
    readSeed vars words = .ok o ↔ ∃ given, Written seedGrammar [] words given none ∧
      o = .supplied given vars ∧ (o.email.isSome → o.password.isSome) := by
  constructor
  · intro h
    obtain ⟨⟨s, named⟩, hscan, -⟩ := exists_of_bind_eq_ok h
    have ho := (readSeed_eq_ok_iff_of_scan hscan).1 h
    obtain ⟨rfl, hb⟩ | ⟨word, rest, -, hword⟩ := scan_ends hscan
    · have hreads : Reads seedGrammar .start words s.given none := by
        refine ⟨s, hscan, (settle_of_begun hb).trans ?_⟩
        rw [← hb]
      exact ⟨s.given, (reads_iff_written clear_seedGrammar).1 hreads, ho⟩
    · simp [seedGrammar, Grammar.namesCommand] at hword
  · rintro ⟨given, hw, ho⟩
    obtain ⟨s, hscan, hs⟩ := (reads_iff_written clear_seedGrammar).2 hw
    obtain ⟨-, hb⟩ | ⟨word, rest, hno, -⟩ := scan_ends hscan
    · obtain rfl := Except.ok.inj ((settle_of_begun hb).symm.trans hs)
      exact (readSeed_eq_ok_iff_of_scan hscan).2 ho
    · cases hno

/-- A command that is read as seeding is named so. -/
theorem readCommand_eq_seed_iff :
    readCommand vars name words = .ok (.seed o) ↔ name = "seed" ∧ readSeed vars words = .ok o := by
  constructor
  · intro h
    unfold readCommand at h
    split at h
    · obtain ⟨_, -, hno⟩ := exists_of_map_eq_ok h
      cases hno
    · obtain ⟨o', ho, he⟩ := exists_of_map_eq_ok h
      cases he
      exact ⟨rfl, ho⟩
    · cases h
  · rintro ⟨rfl, h⟩
    show (readSeed vars words).map Command.seed = _
    rw [h]
    rfl

/-- The command lines that are accepted for seeding, and what they say. -/
theorem read_eq_seed_iff :
    read vars words = .ok ⟨env, some (.seed o)⟩ ↔ ∃ front given, SeedLine words front given ∧
      env = ((front.lookup "env").or (vars.lookup "USERSVC_ENV")).getD "development" ∧
      o = .supplied given vars ∧ (o.email.isSome → o.password.isSome) := by
  constructor
  · intro h
    obtain ⟨⟨s, named⟩, hscan, h⟩ := exists_of_bind_eq_ok h
    cases named with
    | none =>
      obtain ⟨command, hcommand, h⟩ := exists_of_bind_eq_ok h
      obtain ⟨u, -, h⟩ := exists_of_bind_eq_ok h
      cases hcommand
      cases h
    | some called =>
      obtain ⟨name, rest⟩ := called
      obtain ⟨command, hcommand, h⟩ := exists_of_bind_eq_ok h
      obtain ⟨u, hu, h⟩ := exists_of_bind_eq_ok h
      obtain ⟨rfl, rfl⟩ := Invocation.mk.inj (Except.ok.inj h)
      obtain ⟨c, hread, hc⟩ := exists_of_map_eq_ok hcommand
      cases hc
      obtain ⟨rfl, hseed⟩ := readCommand_eq_seed_iff.1 hread
      obtain ⟨given, hrest, ho⟩ := readSeed_eq_ok_iff.1 hseed
      have hreads : Reads programGrammar .start words u.given (some ("seed", rest)) := by
        refine ⟨s, hscan, hu.trans ?_⟩
        rw [← begun_of_settle hu]
      have hfront := (reads_iff_written clear_programGrammar).1 hreads
      exact ⟨u.given, given, .line hfront hrest, rfl, ho⟩
  · rintro ⟨front, given, ⟨hfront, hrest⟩, rfl, ho⟩
    obtain ⟨s, hscan, hs⟩ := (reads_iff_written clear_programGrammar).2 hfront
    have hseed := readSeed_eq_ok_iff.2 ⟨given, hrest, ho⟩
    have hcommand := readCommand_eq_seed_iff.2 ⟨rfl, hseed⟩
    rw [read, hscan]
    show ((readCommand vars "seed" _).map some >>= fun command => s.settle >>= _) = _
    rw [hcommand, hs]
    rfl

/-! ## The administrator -/

theorem admin_eq_some_iff {a : AdminAccount} :
    o.admin = some a ↔ o.email = some a.email ∧ o.password = some a.password ∧ o.name = a.name := by
  obtain ⟨name, email, password⟩ := a
  simp only [SeedOptions.admin, Option.bind_eq_bind, Option.bind_eq_some_iff, Option.pure_def,
    Option.some.injEq, AdminAccount.mk.injEq]
  constructor
  · rintro ⟨_, hemail, _, hpassword, rfl, rfl, rfl⟩
    exact ⟨hemail, hpassword, rfl⟩
  · rintro ⟨hemail, hpassword, rfl⟩
    exact ⟨email, hemail, password, hpassword, rfl, rfl, rfl⟩

theorem admin_isSome_iff : o.admin.isSome ↔ o.email.isSome ∧ o.password.isSome := by
  obtain ⟨email, password, name⟩ := o
  cases email <;> cases password <;> simp [SeedOptions.admin]

/-- An accepted line for seeding gives a password with each address, and it asks for an
administrator exactly if it gives an address: for one of this address, password and name. Without an
address every line is accepted and asks for none, whatever password it gives. -/
theorem administrator_exactly_with_address (vars : List (String × String)) (words : List String) :
    (∀ env o, read vars words = .ok ⟨env, some (.seed o)⟩ →
      (∃ front given, SeedLine words front given ∧ o = .supplied given vars) ∧
        (o.email.isSome → o.password.isSome) ∧ (o.admin.isSome ↔ o.email.isSome) ∧
        ∀ a, o.admin = some a ↔
          o.email = some a.email ∧ o.password = some a.password ∧ o.name = a.name) ∧
      ∀ front given, SeedLine words front given → (SeedOptions.supplied given vars).email = none →
        (∃ env, read vars words = .ok ⟨env, some (.seed (.supplied given vars))⟩) ∧
          (SeedOptions.supplied given vars).admin = none := by
  constructor
  · intro env o h
    obtain ⟨front, given, hline, -, ho, hpassword⟩ := read_eq_seed_iff.1 h
    have hadmin : o.admin.isSome ↔ o.email.isSome :=
      admin_isSome_iff.trans (and_iff_left_of_imp hpassword)
    exact ⟨⟨front, given, hline, ho⟩, hpassword, hadmin, fun a => admin_eq_some_iff⟩
  · intro front given hline hemail
    have hpassword : (SeedOptions.supplied given vars).email.isSome →
        (SeedOptions.supplied given vars).password.isSome := by simp [hemail]
    have hread := read_eq_seed_iff.2 ⟨front, given, hline, rfl, rfl, hpassword⟩
    refine ⟨⟨_, hread⟩, Option.not_isSome_iff_eq_none.1 fun hadmin => ?_⟩
    have hgiven := (admin_isSome_iff.1 hadmin).1
    rw [hemail] at hgiven
    cases hgiven

/-- A password alone is accepted and asks for nobody, with an address it is the administrator's. -/
theorem lone_password_asks_for_nobody :
    (∃ env, read [] ["seed", "--admin-password", "x"] =
      .ok ⟨env, some (.seed ⟨none, some "x", "Administrator"⟩)⟩) ∧
    ∃ o, read [("USERSVC_SEED_ADMIN_PASSWORD", "x")] ["seed", "--admin-email", "a@b"] =
        .ok ⟨"development", some (.seed o)⟩ ∧
      o.admin = some ⟨"Administrator", "a@b", "x"⟩ := by
  have hoption : Written seedGrammar [] ["--" ++ "admin-password", "x"] [("admin-password", "x")]
      none := .apart (by decide) (by decide) rfl .done
  have hline : SeedLine ["seed", "--admin-password", "x"] [] [("admin-password", "x")] :=
    .line (.command rfl) hoption
  have hread : read [("USERSVC_SEED_ADMIN_PASSWORD", "x")] ["seed", "--admin-email", "a@b"] =
      .ok ⟨"development", some (.seed ⟨some "a@b", some "x", "Administrator"⟩)⟩ := by decide
  obtain ⟨-, hlone⟩ := administrator_exactly_with_address [] ["seed", "--admin-password", "x"]
  obtain ⟨-, -, -, hadmin⟩ := (administrator_exactly_with_address _ _).1 _ _ hread
  exact ⟨(hlone _ _ hline rfl).1, _, hread, (hadmin _).2 ⟨rfl, rfl, rfl⟩⟩

end Gatehouse.CommandLine
