import Loom.Contracts.PackageContracts
import Loom.Contracts.Packages
import Loom.RuntimePlugins.ContainerHttp
import Mathlib.Data.Char

/-!
# The HTTP contract

The schema of `container:http/1` and the plugin read image references by one pattern, which spells
the references that `isImageRef` cuts into their parts.  The schema searches for the pattern, and
`$` holds in front of a line feed at the end; so it accepts a reference or a path with a line feed
behind it.
-/

namespace Loom

namespace HttpContract

open Regex PackageContracts

/-! ### Runs of characters -/

theorem mem_run {isIn : Char → Bool} {word : List Char} :
    word ∈ letters isIn * KStar.kstar (letters isIn) ↔
      word ≠ [] ∧ ∀ char ∈ word, isIn char = true := by
  rw [Language.mem_mul]
  constructor
  · rintro ⟨_, ⟨first, isFirst, rfl⟩, rest, isRest, rfl⟩
    exact ⟨by simp, List.forall_mem_cons.2 ⟨isFirst, mem_letters_star.1 isRest⟩⟩
  · rintro ⟨notEmpty, areIn⟩
    cases word with
    | nil => exact (notEmpty rfl).elim
    | cons first rest =>
        obtain ⟨isFirst, isRest⟩ := List.forall_mem_cons.1 areIn
        exact ⟨[first], ⟨first, isFirst, rfl⟩, rest, mem_letters_star.2 isRest, rfl⟩

theorem mem_word_mul {text word : List Char} {words : Language Char} :
    word ∈ ({text} : Language Char) * words ↔ ∃ rest ∈ words, word = text ++ rest := by
  rw [Language.mem_mul]
  constructor
  · rintro ⟨_, rfl, rest, isRest, rfl⟩
    exact ⟨rest, isRest, rfl⟩
  · rintro ⟨rest, isRest, rfl⟩
    exact ⟨text, rfl, rest, isRest, rfl⟩

theorem isNameChar_ne {char : Char} (isName : isNameChar char = true) :
    char ≠ '@' ∧ char ≠ '/' ∧ char ≠ ':' ∧ char ≠ '.' ∧ char ≠ '_' ∧ char ≠ '-' := by
  refine ⟨?_, ?_, ?_, ?_, ?_, ?_⟩
  all_goals
    rintro rfl
    exact absurd isName (by decide)

/-! ### Names -/

/-- The words of `[a-z0-9]+`. -/
def runs : Language Char := letters isNameChar * KStar.kstar (letters isNameChar)

/-- `[._-]`. -/
def isSeparator (char : Char) : Bool := char = '.' || char = '_' || char = '-'

/-- The words of a name in the path of an image. -/
def names : Language Char := runs * KStar.kstar (letters isSeparator * runs)

theorem isSeparator_iff {char : Char} :
    isSeparator char = ['.', '_', '-'].contains char := by
  unfold isSeparator
  simp [Bool.or_assoc]

/-- A text is a run and pairs of a separator and a run. -/
theorem splitOnP_runs (isIn : Char → Bool) (word : List Char) :
    ∃ (first : List Char) (pairs : List (Char × List Char)), word.splitOnP isIn =
      first :: pairs.map Prod.snd ∧
      word = first ++ (pairs.map fun pair => pair.1 :: pair.2).flatten ∧
      ∀ pair ∈ pairs, isIn pair.1 = true := by
  induction word with
  | nil => exact ⟨[], [], rfl, rfl, by simp⟩
  | cons char word ih =>
      obtain ⟨first, pairs, isSplit, isWord, areIn⟩ := ih
      rw [List.splitOnP_cons_eq_if_modifyHead, isSplit]
      by_cases inClass : isIn char = true
      · rw [if_pos inClass]
        refine ⟨[], (char, first) :: pairs, rfl, ?_, List.forall_mem_cons.2 ⟨inClass, areIn⟩⟩
        rw [isWord]
        rfl
      · rw [if_neg inClass]
        exact ⟨char :: first, pairs, rfl, by rw [isWord]; rfl, areIn⟩

theorem notSeparator_of_run {run : List Char} (isRun : run ∈ runs) :
    ∀ char ∈ run, isSeparator char = false := by
  intro char isMem
  obtain ⟨-, -, -, notDot, notLow, notDash⟩ := isNameChar_ne ((mem_run.1 isRun).2 char isMem)
  simp [isSeparator, notDot, notLow, notDash]

/-- A run and pairs of a separator and a run are cut into the runs. -/
theorem runs_of_split {parts : List (List Char)}
    (areParts : ∀ part ∈ parts, part ∈ letters isSeparator * runs) :
    ∀ {run : List Char}, run ∈ runs →
      ∀ piece ∈ (run ++ parts.flatten).splitOnP isSeparator, piece ∈ runs := by
  induction parts with
  | nil =>
      intro run isRun piece isPiece
      rw [List.flatten_nil, List.append_nil,
        List.splitOnP_eq_singleton (notSeparator_of_run isRun)] at isPiece
      rw [List.mem_singleton.1 isPiece]
      exact isRun
  | cons part parts ih =>
      intro run isRun piece isPiece
      obtain ⟨isPart, areOthers⟩ := List.forall_mem_cons.1 areParts
      obtain ⟨_, ⟨separator, isSep, rfl⟩, next, isNext, rfl⟩ := Language.mem_mul.1 isPart
      rw [List.flatten_cons, List.append_assoc, List.singleton_append,
        List.splitOnP_append_cons_of_forall_mem (notSeparator_of_run isRun) _ isSep,
        List.mem_cons] at isPiece
      rcases isPiece with rfl | isPiece
      · exact isRun
      · exact ih areOthers isNext piece isPiece

/-- The names are cut into runs at the separators. -/
theorem mem_names {word : List Char} : word ∈ names ↔ isImageComponent word = true := by
  have isClass : (fun char => ['.', '_', '-'].contains char) = isSeparator := by
    funext char
    exact isSeparator_iff.symm
  have pieces : isImageComponent word = true ↔ ∀ piece ∈ word.splitOnP isSeparator,
    piece ∈ runs := by
    unfold isImageComponent
    rw [isClass, List.all_eq_true]
    simp only [ne_eq, Bool.and_eq_true, decide_eq_true_eq, List.all_eq_true]
    exact forall₂_congr fun piece _ => mem_run.symm
  rw [pieces]
  constructor
  · intro isName
    obtain ⟨run, isRun, _, ⟨parts, rfl, areParts⟩, rfl⟩ := Language.mem_mul.1 isName
    exact runs_of_split areParts isRun
  · intro areRuns
    obtain ⟨first, pairs, isSplit, isWord, areIn⟩ := splitOnP_runs isSeparator word
    rw [isSplit] at areRuns
    obtain ⟨isFirst, areRuns⟩ := List.forall_mem_cons.1 areRuns
    rw [isWord]
    refine Language.append_mem_mul isFirst (Language.join_mem_kstar ?_)
    intro part isPart
    obtain ⟨pair, isPair, rfl⟩ := List.mem_map.1 isPart
    have isRun := areRuns pair.2 (List.mem_map_of_mem isPair)
    exact Language.append_mem_mul (a := [pair.1]) ⟨pair.1, areIn pair isPair, rfl⟩ isRun

theorem name_chars {name : List Char} (isName : name ∈ names) :
    ∀ char ∈ name, isNameChar char = true ∨ isSeparator char = true := by
  obtain ⟨run, isRun, _, ⟨parts, rfl, areParts⟩, rfl⟩ := Language.mem_mul.1 isName
  intro char isMem
  rcases List.mem_append.1 isMem with isMem | isMem
  · exact Or.inl ((mem_run.1 isRun).2 char isMem)
  · obtain ⟨part, isPart, inPart⟩ := List.mem_flatten.1 isMem
    obtain ⟨_, ⟨separator, isSep, rfl⟩, next, isNext, rfl⟩ :=
      Language.mem_mul.1 (areParts part isPart)
    rcases List.mem_append.1 inPart with inPart | inPart
    · rw [List.mem_singleton.1 inPart]
      exact Or.inr isSep
    · exact Or.inl ((mem_run.1 isNext).2 char inPart)

theorem not_mem_name {name : List Char} (isName : name ∈ names) : '@' ∉ name ∧ '/' ∉ name := by
  constructor
  · intro isMem
    rcases name_chars isName _ isMem with isIn | isIn
    · exact absurd isIn (by decide)
    · exact absurd isIn (by decide)
  · intro isMem
    rcases name_chars isName _ isMem with isIn | isIn
    · exact absurd isIn (by decide)
    · exact absurd isIn (by decide)

/-- The words of the names of an image, each with a slash behind it, and the last. -/
def paths : Language Char := KStar.kstar (names * {['/']}) * names

/-- A path is cut into its names at the slashes. -/
theorem mem_paths {word : List Char} :
    word ∈ paths ↔ ∀ name ∈ word.splitOn '/', isImageComponent name = true := by
  constructor
  · rintro ⟨_, ⟨parts, rfl, areParts⟩, last, isLast, rfl⟩
    induction parts with
    | nil =>
        intro name isName
        dsimp only at isName
        rw [List.flatten_nil, List.nil_append, List.splitOn_eq_singleton (not_mem_name isLast).2]
          at isName
        rw [List.mem_singleton.1 isName]
        exact mem_names.1 isLast
    | cons part parts ih =>
        intro name isName
        obtain ⟨isPart, areOthers⟩ := List.forall_mem_cons.1 areParts
        obtain ⟨first, isFirst, _, rfl, rfl⟩ := Language.mem_mul.1 isPart
        dsimp only at isName
        rw [List.flatten_cons, List.append_assoc, List.append_assoc, List.singleton_append,
          List.splitOn_append_cons_self_of_not_mem (not_mem_name isFirst).2, List.mem_cons]
            at isName
        rcases isName with rfl | isName
        · exact mem_names.1 isFirst
        · exact ih areOthers name isName
  · intro areNames
    have joined : ['/'].intercalate (word.splitOn '/') = word := List.intercalate_splitOn '/'
    rw [← joined]
    have notEmpty := List.splitOn_ne_nil '/' word
    generalize word.splitOn '/' = parts at areNames notEmpty
    induction parts with
    | nil => exact (notEmpty rfl).elim
    | cons first parts ih =>
        obtain ⟨isFirst, areOthers⟩ := List.forall_mem_cons.1 areNames
        cases parts with
        | nil =>
            rw [List.intercalate_singleton]
            exact Language.append_mem_mul (a := []) (Language.nil_mem_kstar _) (mem_names.2 isFirst)
        | cons second parts =>
            obtain ⟨_, ⟨others, rfl, areParts⟩, last, isLast, same⟩ := ih areOthers (by simp)
            rw [List.intercalate_cons_cons, ← same]
            refine ⟨_, ⟨(first ++ ['/']) :: others, rfl, List.forall_mem_cons.2 ⟨?_, areParts⟩⟩,
              last, isLast, ?_⟩
            · exact Language.append_mem_mul (mem_names.2 isFirst) rfl
            · simp

/-! ### Hosts -/

/-- `[a-z0-9.-]`. -/
def isHostChar (char : Char) : Bool := isNameChar char || char = '.' || char = '-'

/-- The words of the name of a host. -/
def hosts : Language Char :=
  letters isNameChar * (1 + KStar.kstar (letters isHostChar) * letters isNameChar)

/-- The words of a host, with its port. -/
def servers : Language Char :=
  hosts * (1 + {[':']} * (letters Char.isDigit * KStar.kstar (letters Char.isDigit)))

theorem mem_hosts {word : List Char} : word ∈ hosts ↔
    (word.head?.any isNameChar && word.getLast?.any isNameChar &&
      word.all fun char => isNameChar char || ['.', '-'].contains char) = true := by
  have isClass : (fun char => isNameChar char || ['.', '-'].contains char) = isHostChar := by
    funext char
    simp [isHostChar, Bool.or_assoc]
  have isHost : ∀ {char : Char}, isNameChar char = true → isHostChar char = true := by
    intro char isName
    rw [isHostChar, isName]
    rfl
  rw [isClass, Bool.and_eq_true, Bool.and_eq_true, List.all_eq_true]
  constructor
  · rintro ⟨_, ⟨first, isFirst, rfl⟩, _, rfl | ⟨middle, isMiddle, _, ⟨last, isLast, rfl⟩, rfl⟩, rfl⟩
    · simpa [isFirst] using isHost isFirst
    · have ends : ([first] ++ (middle ++ [last])).getLast? = some last := by
        rw [← List.append_assoc, List.getLast?_concat]
      refine ⟨⟨by simpa using isFirst, ?_⟩, ?_⟩
      · change ([first] ++ (middle ++ [last])).getLast?.any isNameChar = true
        rw [ends]
        exact isLast
      intro char isMem
      simp only [List.singleton_append, List.mem_cons, List.mem_append, List.not_mem_nil,
        or_false] at isMem
      rcases isMem with rfl | isMem | rfl
      · exact isHost isFirst
      · exact mem_letters_star.1 isMiddle char isMem
      · exact isHost isLast
  · rintro ⟨⟨isFirst, isLast⟩, areIn⟩
    cases word with
    | nil => cases isFirst
    | cons first rest =>
        refine ⟨[first], ⟨first, by simpa using isFirst, rfl⟩, rest, ?_, rfl⟩
        rcases List.eq_nil_or_concat rest with rfl | ⟨middle, last, rfl⟩
        · exact Or.inl rfl
        · refine Or.inr ⟨middle, mem_letters_star.2 ?_, [last], ⟨last, ?_, rfl⟩, by simp⟩
          · intro char isMem
            exact areIn char (by simp [isMem])
          · simpa [List.getLast?_cons] using isLast

theorem host_chars {host : List Char} (isHost : host ∈ hosts) :
    ∀ char ∈ host, isHostChar char = true := by
  rw [mem_hosts, Bool.and_eq_true, List.all_eq_true] at isHost
  intro char isMem
  have isIn := isHost.2 char isMem
  simpa [isHostChar, Bool.or_assoc] using isIn

/-- A host is cut from its port at the colon. -/
theorem mem_servers {word : List Char} : word ∈ servers ↔ isImageHost word = true := by
  have noColon : ∀ {host : List Char}, host ∈ hosts → ':' ∉ host := by
    intro host isHost isMem
    exact absurd (host_chars isHost _ isMem) (by decide)
  constructor
  · rintro ⟨host, isHost, _, rfl | ⟨_, rfl, port, isPort, rfl⟩, rfl⟩
    · unfold isImageHost
      dsimp only
      rw [List.append_nil, List.splitOn_eq_singleton (noColon isHost)]
      exact mem_hosts.1 isHost
    · obtain ⟨notEmpty, areDigits⟩ := mem_run.1 isPort
      have noColon' : ':' ∉ port := fun isMem => absurd (areDigits _ isMem) (by decide)
      unfold isImageHost
      dsimp only
      rw [List.singleton_append, List.splitOn_append_cons_self_of_not_mem (noColon isHost),
        List.splitOn_eq_singleton noColon']
      dsimp only
      rw [mem_hosts.1 isHost, List.all_eq_true.2 areDigits]
      simp [notEmpty]
  · intro isHost
    have joined : [':'].intercalate (word.splitOn ':') = word := List.intercalate_splitOn ':'
    unfold isImageHost at isHost
    dsimp only at isHost
    split at isHost
    · rename_i name isSplit
      rw [isSplit, List.intercalate_singleton] at joined
      subst joined
      exact ⟨name, mem_hosts.2 isHost, [], Or.inl rfl, List.append_nil _⟩
    · rename_i name port isSplit
      rw [isSplit, List.intercalate_cons_cons, List.intercalate_singleton] at joined
      subst joined
      simp only [Bool.and_eq_true, decide_eq_true_eq, List.all_eq_true] at isHost
      obtain ⟨⟨isName, notEmpty⟩, areDigits⟩ := isHost
      refine ⟨name, mem_hosts.2 ?_, ':' :: port,
        Or.inr ⟨[':'], rfl, port, mem_run.2 ⟨notEmpty, areDigits⟩, rfl⟩, by simp⟩
      simpa using isName
    · cases isHost

/-! ### Image references -/

/-- The words of an image with its digest. -/
def imageWords : Language Char :=
  servers * ({['/']} * (paths * ({"@sha256:".toList} * letters isLowerHex ^ 64)))

theorem spells_plus {isIn : Char → Bool} :
    (plus (char isIn)).Spells (letters isIn * KStar.kstar (letters isIn)) :=
  (spells_char isIn).seq (spells_char isIn).star

theorem spells_component : componentPattern.Spells names :=
  spells_plus.seq ((spells_char isSeparator).seq spells_plus).star

theorem spells_host : hostPattern.Spells hosts :=
  (spells_char isNameChar).seq ((spells_char isHostChar).star.seq (spells_char isNameChar)).opt

/-- The pattern of an image spells its words. -/
theorem spells_digestRef : digestRefBody.Spells imageWords := by
  have spells : digestRefBody.Spells
      (hosts * ((1 + {[':']} * (letters Char.isDigit * KStar.kstar (letters Char.isDigit))) *
        ({['/']} * (KStar.kstar (names * {['/']}) *
          (names * ({"@sha256:".toList} * letters isLowerHex ^ 64)))))) :=
    spells_host.seq (((spells_literal [':']).seq spells_plus).opt.seq ((spells_literal ['/']).seq
      ((spells_component.seq (spells_literal ['/'])).star.seq (spells_component.seq
        ((spells_literal _).seq ((spells_char isLowerHex).times 64))))))
  have same : imageWords =
      hosts * ((1 + {[':']} * (letters Char.isDigit * KStar.kstar (letters Char.isDigit))) *
        ({['/']} * (KStar.kstar (names * {['/']}) *
          (names * ({"@sha256:".toList} * letters isLowerHex ^ 64))))) := by
    simp only [imageWords, servers, paths, mul_assoc]
  rw [same]
  exact spells

theorem not_mem_server {server : List Char} (isServer : server ∈ servers) {char : Char}
    (notHost : isHostChar char = false) (notColon : char ≠ ':') : char ∉ server := by
  obtain ⟨host, isHost, port, isPort, rfl⟩ := Language.mem_mul.1 isServer
  have notDigit : char.isDigit = false := by
    unfold isHostChar isNameChar at notHost
    simp only [Bool.or_eq_false_iff] at notHost
    exact notHost.1.1.1
  intro isMem
  rcases List.mem_append.1 isMem with isMem | isMem
  · rw [host_chars isHost char isMem] at notHost
    cases notHost
  · rcases (Language.mem_add _ _ _).1 isPort with rfl | isPort
    · cases isMem
    · obtain ⟨digits, areDigits, rfl⟩ := mem_word_mul.1 isPort
      rcases List.mem_append.1 isMem with isMem | isMem
      · exact notColon (List.mem_singleton.1 isMem)
      · rw [(mem_run.1 areDigits).2 char isMem] at notDigit
        cases notDigit

theorem not_mem_path {path : List Char} (isPath : path ∈ paths) {char : Char}
    (notName : isNameChar char = false) (notSeparator : isSeparator char = false)
    (notSlash : char ≠ '/') : char ∉ path := by
  have notIn : ∀ {name : List Char}, name ∈ names → char ∉ name := by
    intro name isName isMem
    rcases name_chars isName char isMem with isIn | isIn
    · rw [isIn] at notName
      cases notName
    · rw [isIn] at notSeparator
      cases notSeparator
  obtain ⟨_, ⟨parts, rfl, areParts⟩, last, isLast, rfl⟩ := Language.mem_mul.1 isPath
  intro isMem
  rcases List.mem_append.1 isMem with isMem | isMem
  · obtain ⟨part, isPart, inPart⟩ := List.mem_flatten.1 isMem
    obtain ⟨name, isName, _, rfl, rfl⟩ := Language.mem_mul.1 (areParts part isPart)
    rcases List.mem_append.1 inPart with inPart | inPart
    · exact notIn isName inPart
    · exact notSlash (List.mem_singleton.1 inPart)
  · exact notIn isLast isMem

/-- The parts of an image reference. -/
theorem image_parts {text : String} (isWord : text.toList ∈ imageWords) :
    ∃ server ∈ servers, ∃ path ∈ paths, ∃ digits ∈ letters isLowerHex ^ 64,
      text.toList = (server ++ '/' :: path) ++ '@' :: ("sha256:".toList ++ digits) := by
  obtain ⟨server, isServer, _, isRest, isText⟩ := Language.mem_mul.1 isWord
  obtain ⟨_, isTail, rfl⟩ := mem_word_mul.1 isRest
  obtain ⟨path, isPath, _, isDigest, rfl⟩ := Language.mem_mul.1 isTail
  obtain ⟨digits, areDigits, rfl⟩ := mem_word_mul.1 isDigest
  refine ⟨server, isServer, path, isPath, digits, areDigits, ?_⟩
  rw [← isText]
  simp

theorem isSha256_iff {digits : List Char} :
    CapabilityPackageVersion.isSha256 (some (String.ofList digits)) = true ↔
      digits ∈ letters isLowerHex ^ 64 := by
  rw [mem_letters_pow]
  unfold CapabilityPackageVersion.isSha256
  dsimp only
  rw [String.length_ofList, String.toList_ofList]
  simp only [Bool.decide_and, Bool.and_eq_true, decide_eq_true_eq, List.all_eq_true, isLowerHex]

/-- An image reference is cut into its parts. -/
theorem mem_imageWords {text : String} : text.toList ∈ imageWords ↔ isImageRef text = true := by
  constructor
  · intro isWord
    obtain ⟨server, isServer, path, isPath, digits, areDigits, parts⟩ := image_parts isWord
    have noAt : '@' ∉ server ++ '/' :: path := by
      have notServer : '@' ∉ server := not_mem_server isServer (by decide) (by decide)
      have notPath : '@' ∉ path := not_mem_path isPath (by decide) (by decide) (by decide)
      simp [notServer, notPath]
    have noAt' : '@' ∉ "sha256:".toList ++ digits := by
      intro isMem
      rcases List.mem_append.1 isMem with isMem | isMem
      · exact absurd isMem (by decide)
      · exact absurd ((mem_letters_pow.1 areDigits).2 _ isMem) (by decide)
    have noSlash : '/' ∉ server := not_mem_server isServer (by decide) (by decide)
    unfold isImageRef
    rw [parts, List.splitOn_append_cons_self_of_not_mem noAt, List.splitOn_eq_singleton noAt']
    dsimp only
    rw [List.splitOn_append_cons_self_of_not_mem noSlash]
    dsimp only
    have dropped : ("sha256:".toList ++ digits).drop 7 = digits := rfl
    rw [mem_servers.1 isServer, List.all_eq_true.2 (mem_paths.1 isPath), dropped,
      isSha256_iff.2 areDigits]
    simp [List.splitOn_ne_nil]
  · intro isRef
    have joined : ['@'].intercalate (text.toList.splitOn '@') = text.toList :=
      List.intercalate_splitOn '@'
    unfold isImageRef at isRef
    split at isRef
    · rename_i path digest isSplit
      rw [isSplit, List.intercalate_cons_cons, List.intercalate_singleton] at joined
      have joinedPath : ['/'].intercalate (path.splitOn '/') = path := List.intercalate_splitOn '/'
      rw [Bool.and_eq_true, Bool.and_eq_true] at isRef
      obtain ⟨⟨isPath, isLabel⟩, isDigest⟩ := isRef
      split at isPath
      · rename_i server components isSplit'
        rw [isSplit'] at joinedPath
        simp only [Bool.and_eq_true, decide_eq_true_eq, List.all_eq_true] at isPath
        obtain ⟨⟨isServer, notEmpty⟩, areNames⟩ := isPath
        obtain ⟨digits, rfl⟩ := List.isPrefixOf_iff_prefix.1 isLabel
        rw [List.intercalate_cons_of_ne_nil notEmpty] at joinedPath
        rw [← joined, ← joinedPath]
        have isPaths : ['/'].intercalate components ∈ paths := by
          rw [mem_paths, List.splitOn_intercalate '/' _ notEmpty]
          · exact areNames
          · intro name isMem
            exact (not_mem_name (mem_names.2 (areNames name isMem))).2
        refine ⟨server, mem_servers.2 isServer, _, mem_word_mul.2 ⟨_, ⟨_, isPaths, _,
          mem_word_mul.2 ⟨digits, isSha256_iff.1 isDigest, rfl⟩, rfl⟩, rfl⟩, ?_⟩
        simp
      · cases isPath
    · cases isRef

/-- The two patterns are one. -/
theorem imageRe_eq : imageRe = ociDigestRefPattern := rfl

/-- The plugin reads the references that are cut into their parts. -/
theorem imageRe_fullmatch (text : String) : imageRe.fullmatch text = isImageRef text := by
  have same : imageRe.fullmatch text = true ↔ isImageRef text = true := by
    rw [imageRe_eq, fullmatch_iff, ← mem_imageWords]
    exact matchesAll_anchored.trans (spells_digestRef _ _ _)
  exact Bool.eq_iff_iff.2 same

/-- A text that a line feed follows. -/
def LineFeedAfter (grammar : String → Prop) (text : String) : Prop :=
  ∃ word, text = word ++ "\n" ∧ grammar word

theorem lineFeedAfter_iff {grammar : String → Prop} {text : String} :
    LineFeedAfter grammar text ↔
      ∃ word : List Char, text.toList = word ++ ['\n'] ∧ grammar (String.ofList word) := by
  constructor
  · rintro ⟨word, rfl, isWord⟩
    exact ⟨word.toList, by simp, by simpa using isWord⟩
  · rintro ⟨word, same, isWord⟩
    refine ⟨String.ofList word, String.toList_inj.1 ?_, isWord⟩
    rw [same]
    simp

/-- The schema accepts an image reference, also where a line feed follows it. -/
theorem search_image (text : String) : ociDigestRefPattern.search text = true ↔
    isImageRef text = true ∨ LineFeedAfter (fun word => isImageRef word = true) text := by
  rw [search_iff, ← mem_imageWords, lineFeedAfter_iff]
  refine finds_anchored.trans (or_congr (spells_digestRef _ _ _) (exists_congr fun word => ?_))
  rw [spells_digestRef, ← mem_imageWords, String.toList_ofList]

/-! ### Paths -/

/-- The control characters of ASCII. -/
def IsControl (char : Char) : Prop := char < ' ' ∨ char = '\x7f'

/-- A path in origin form, without a query, a fragment, a backslash, blanks and control characters,
that does not begin with two slashes. -/
def IsOriginPath (text : String) : Prop :=
  ∃ rest, text.toList = '/' :: rest ∧ rest.head? ≠ some '/' ∧
    ∀ char ∈ rest, char ≠ '?' ∧ char ≠ '#' ∧ char ≠ '\\' ∧ char ≠ ' ' ∧ ¬IsControl char

theorem isPathChar_iff {char : Char} : isPathChar char = true ↔
    char ≠ '?' ∧ char ≠ '#' ∧ char ≠ '\\' ∧ char ≠ ' ' ∧ ¬IsControl char := by
  unfold isPathChar IsControl
  simp only [Bool.and_eq_true, Bool.not_eq_true', decide_eq_true_eq, not_or]
  have notIn : ['?', '#', '\\', '\x7f'].contains char = false ↔
      char ≠ '?' ∧ char ≠ '#' ∧ char ≠ '\\' ∧ char ≠ '\x7f' := by
    simp
  rw [notIn]
  constructor
  · rintro ⟨⟨notQuery, notFragment, notSlash, notDelete⟩, above⟩
    exact ⟨notQuery, notFragment, notSlash, above.ne', not_lt.2 above.le, notDelete⟩
  · rintro ⟨notQuery, notFragment, notSlash, notBlank, notBelow, notDelete⟩
    exact ⟨⟨notQuery, notFragment, notSlash, notDelete⟩,
      lt_of_le_of_ne (not_lt.1 notBelow) notBlank.symm⟩

/-- A slash is ahead where the text begins with one. -/
theorem slash_ahead {before rest : List Char} :
    (∃ ahead others, rest = ahead ++ others ∧ (literal ['/']).Matches before ahead others) ↔
      rest.head? = some '/' := by
  constructor
  · rintro ⟨ahead, others, rfl, isSlash⟩
    rw [(spells_literal ['/']) before ahead others] at isSlash
    obtain rfl : ahead = ['/'] := isSlash
    rfl
  · intro isHead
    cases rest with
    | nil => cases isHead
    | cons first others =>
        cases isHead
        exact ⟨['/'], others, rfl, ((spells_literal ['/']) _ _ _).2 rfl⟩

theorem path_matches {word after : List Char} (ends : after = [] ∨ after = ['\n']) :
    (concat [literal ['/'], notAhead (literal ['/']), star (char isPathChar)]).Matches [] word
      after ↔
      IsOriginPath (String.ofList word) := by
  have headed : ∀ rest : List Char, (rest ++ after).head? = some '/' ↔ rest.head? = some '/' := by
    intro rest
    cases rest with
    | nil =>
        rcases ends with rfl | rfl
        · rfl
        · simp
    | cons first rest => rfl
  unfold IsOriginPath
  rw [String.toList_ofList]
  constructor
  · rintro ⟨_, _, rfl, isSlash, _, rest, rfl, ⟨rfl, notAhead⟩, isRest⟩
    rw [(spells_literal ['/']) _ _ _] at isSlash
    obtain rfl := isSlash
    have inClass := mem_letters_star.1 (((spells_char isPathChar).star _ _ _).1 isRest)
    refine ⟨rest, rfl, ?_, fun char isMem => isPathChar_iff.1 (inClass char isMem)⟩
    intro isHead
    exact notAhead (slash_ahead.2 ((headed rest).2 isHead))
  · rintro ⟨rest, rfl, notSlash, areIn⟩
    refine ⟨['/'], rest, rfl, ((spells_literal ['/']) _ _ _).2 rfl, [], rest, rfl, ⟨rfl, ?_⟩, ?_⟩
    · intro ahead
      exact notSlash ((headed rest).1 (slash_ahead.1 ahead))
    · refine ((spells_char isPathChar).star _ _ _).2 (mem_letters_star.2 ?_)
      exact fun char isMem => isPathChar_iff.2 (areIn char isMem)

/-- The schema accepts a path in origin form, also where a line feed follows it. -/
theorem search_path (text : String) : originPathPattern.search text = true ↔
    IsOriginPath text ∨ LineFeedAfter IsOriginPath text := by
  rw [search_iff, lineFeedAfter_iff]
  refine finds_anchored.trans (or_congr ?_ (exists_congr fun word => ?_))
  · rw [path_matches (Or.inl rfl), String.ofList_toList]
  · rw [path_matches (Or.inr rfl)]

/-! ### Exactness -/

/-- A text has no line break. -/
def OneLine (text : String) : Prop := '\n' ∉ text.toList ∧ '\r' ∉ text.toList

/-- A pattern accepts a text where it is one of the grammar, and no text with a line break. -/
def ExactAt (pattern : Regex) (grammar : String → Prop) (text : String) : Prop :=
  (pattern.search text = true ↔ grammar text) ∧ (pattern.search text = true → OneLine text)

theorem exactAt_iff {pattern : Regex} {grammar : String → Prop}
    (searches : ∀ text, pattern.search text = true ↔ grammar text ∨ LineFeedAfter grammar text)
    (oneLine : ∀ text, grammar text → OneLine text) (text : String) :
    ExactAt pattern grammar text ↔ ¬LineFeedAfter grammar text := by
  constructor
  · rintro ⟨-, isLine⟩ followed
    have broken := (isLine ((searches text).2 (Or.inr followed))).1
    obtain ⟨word, rfl, -⟩ := followed
    exact broken (by simp)
  · intro notFollowed
    have accepts : pattern.search text = true ↔ grammar text := by
      rw [searches]
      exact or_iff_left notFollowed
    exact ⟨accepts, fun accepted => oneLine text (accepts.1 accepted)⟩

theorem oneLine_image {text : String} (isRef : isImageRef text = true) : OneLine text := by
  obtain ⟨server, isServer, path, isPath, digits, areDigits, parts⟩ :=
    image_parts (mem_imageWords.2 isRef)
  have apart : ∀ char : Char, isHostChar char = false → isSeparator char = false →
      isLowerHex char = false → char ∉ ":/@sha256:".toList → char ∉ text.toList := by
    intro char notHost notSeparator notHex notLabel isMem
    have notName : isNameChar char = false := by
      unfold isHostChar at notHost
      simp only [Bool.or_eq_false_iff] at notHost
      exact notHost.1.1
    have notColon : char ≠ ':' := by
      rintro rfl
      exact notLabel (by decide)
    have notSlash : char ≠ '/' := by
      rintro rfl
      exact notLabel (by decide)
    rw [parts] at isMem
    simp only [List.mem_append, List.mem_cons] at isMem
    rcases isMem with (isMem | isSlash | isMem) | isAt | isMem | isMem
    · exact not_mem_server isServer notHost notColon isMem
    · exact notSlash isSlash
    · exact not_mem_path isPath notName notSeparator notSlash isMem
    · subst isAt
      exact notLabel (by decide)
    · refine notLabel ?_
      have whole : ":/@sha256:".toList = ":/@".toList ++ "sha256:".toList := by decide
      rw [whole]
      exact List.mem_append_right _ isMem
    · rw [(mem_letters_pow.1 areDigits).2 char isMem] at notHex
      cases notHex
  exact ⟨apart _ (by decide) (by decide) (by decide) (by decide),
    apart _ (by decide) (by decide) (by decide) (by decide)⟩

theorem oneLine_path {text : String} (isPath : IsOriginPath text) : OneLine text := by
  obtain ⟨rest, isText, -, areIn⟩ := isPath
  have apart : ∀ char : Char, char ≠ '/' → IsControl char → char ∉ text.toList := by
    intro char notSlash isControl isMem
    rw [isText] at isMem
    rcases List.mem_cons.1 isMem with isSlash | isMem
    · exact notSlash isSlash
    · exact (areIn char isMem).2.2.2.2 isControl
  exact ⟨apart _ (by decide) (Or.inl (by decide)), apart _ (by decide) (Or.inl (by decide))⟩

/-! ### Packages -/

/-- What the schema gets of a package. -/
def manifestOf (package : Dict) : Json :=
  .obj (["package_type", "execution", "capability_exports", "body"].map fun name =>
    (name, Dict.get package name))

/-- The body of a package. -/
def bodyOf (package : Dict) : Dict :=
  match Dict.get package "body" with
  | .obj body => body
  | _ => []

/-- The plugin takes the package, or it names two exports with one path or one with the path of the
health check. -/
def Served (env : PluginEnv) (package : Dict) : Prop :=
  (∃ values, serviceValues env package = .ok values) ∨
    ∃ exports paths, Dict.get package "capability_exports" = .arr exports ∧
      exports.mapM exportPath = .ok paths ∧
      (¬paths.Nodup ∧
          serviceValues env package = .error (runtimeError "service_endpoint_duplicate") ∨
        (∃ health ∈ paths, Dict.get (bodyOf package) "health_path" = .str health) ∧
          serviceValues env package = .error (runtimeError "service_health_endpoint_conflict"))

/-- No line feed follows the image, and the port is written as an integer. -/
def Plain (package : Dict) : Prop :=
  (∃ imageRef, Dict.get (bodyOf package) "image_ref" = .str imageRef ∧
    ¬LineFeedAfter (fun word => isImageRef word = true) imageRef) ∧
    ∃ port, Dict.get (bodyOf package) "container_port" = .int port

theorem object_get {required : List String} {properties : List (String × Schema)} {value : Json}
    (accepted : object required properties value = true) :
    ∃ entries, value = .obj entries ∧ ∀ name ∈ required, ∀ schema, (name, schema) ∈ properties →
      schema (Dict.get entries name) = true := by
  cases value with
  | obj entries =>
      refine ⟨entries, rfl, ?_⟩
      intro name isRequired schema isProperty
      simp only [object, Bool.and_eq_true, List.all_eq_true, Prod.forall] at accepted
      have checked := accepted.1.2 name schema isProperty
      rw [accepted.1.1 name isRequired] at checked
      exact checked
  | null => cases accepted
  | bool _ => cases accepted
  | int _ => cases accepted
  | float _ => cases accepted
  | str _ => cases accepted
  | arr _ => cases accepted

theorem matching_str {pattern : Regex} {value : Json} (accepted : matching pattern value = true) :
    ∃ text, value = .str text ∧ pattern.search text = true := by
  cases value with
  | str text => exact ⟨text, rfl, accepted⟩
  | null => cases accepted
  | bool _ => cases accepted
  | int _ => cases accepted
  | float _ => cases accepted
  | obj _ => cases accepted
  | arr _ => cases accepted

theorem integer_number {least most : ℚ} {value : Json}
    (accepted : integer least most value = true) :
    (∃ number : Int, value = .int number ∧ least ≤ number ∧ number ≤ most) ∨
      ∃ number, value = .float number := by
  cases value with
  | int number =>
      refine Or.inl ⟨number, rfl, ?_⟩
      simpa [integer, ofType, JsonSchema.typesOf, JsonSchema.numberOf] using accepted
  | float number => exact Or.inr ⟨number, rfl⟩
  | null => cases accepted
  | bool _ => cases accepted
  | str _ => cases accepted
  | obj _ => cases accepted
  | arr _ => cases accepted

/-- The exports that the schema accepts have paths. -/
theorem exportPath_of_accepted {capabilityExport : Json}
    (accepted : exportSchema serviceBindingSchema capabilityExport = true) :
    ∃ path, exportPath capabilityExport = .ok path := by
  obtain ⟨entries, rfl, isExport⟩ := object_get accepted
  have isBinding := isExport "runtime_binding" (by simp) serviceBindingSchema (by simp)
  obtain ⟨binding, found, isBinding⟩ := object_get isBinding
  obtain ⟨path, isPath, -⟩ :=
    matching_str (isBinding "path" (by simp) (matching originPathPattern) (by simp))
  refine ⟨path, ?_⟩
  unfold exportPath
  dsimp only
  rw [found]
  dsimp only
  rw [isPath]

theorem exportPaths_of_accepted : ∀ {exports : List Json},
    (∀ item ∈ exports, exportSchema serviceBindingSchema item = true) →
      ∃ paths, exports.mapM exportPath = .ok paths
  | [], _ => ⟨[], rfl⟩
  | item :: rest, accepted => by
      obtain ⟨isItem, areRest⟩ := List.forall_mem_cons.1 accepted
      obtain ⟨path, isPath⟩ := exportPath_of_accepted isItem
      obtain ⟨paths, arePaths⟩ := exportPaths_of_accepted areRest
      refine ⟨path :: paths, ?_⟩
      rw [List.mapM_cons, isPath, arePaths]
      rfl

/-- What a package has that the schema accepts. -/
theorem accepted_parts {package : Dict}
    (accepted : containerHttpV1Schema (manifestOf package) = true) :
    ∃ body exports paths imageRef healthPath, Dict.get package "body" = .obj body ∧
      Dict.get package "capability_exports" = .arr exports ∧ exports ≠ [] ∧
      exports.mapM exportPath = .ok paths ∧
      Dict.get body "image_ref" = .str imageRef ∧ ociDigestRefPattern.search imageRef = true ∧
      Dict.get body "health_path" = .str healthPath ∧
      ((∃ port : Int, Dict.get body "container_port" = .int port ∧ 1 ≤ port ∧ port ≤ 65535) ∨
        ∃ port, Dict.get body "container_port" = .float port) := by
  unfold containerHttpV1Schema contractSchema at accepted
  obtain ⟨entries, isManifest, isPackage⟩ := object_get accepted
  cases isManifest
  have isBody := isPackage "body" (by simp) serviceBodySchema (by simp)
  have areExports := isPackage "capability_exports" (by simp)
    (array 1 (exportSchema serviceBindingSchema)) (by simp)
  change serviceBodySchema (Dict.get package "body") = true at isBody
  change array 1 (exportSchema serviceBindingSchema) (Dict.get package "capability_exports") =
    true at areExports
  obtain ⟨body, foundBody, isBody⟩ := object_get isBody
  obtain ⟨imageRef, isImage, searched⟩ := matching_str
    (isBody "image_ref" (by simp) (matching ociDigestRefPattern) (by simp))
  obtain ⟨healthPath, isHealth, -⟩ := matching_str
    (isBody "health_path" (by simp) (matching originPathPattern) (by simp))
  have isPort := integer_number (isBody "container_port" (by simp) (integer 1 65535) (by simp))
  obtain ⟨exports, foundExports, notEmpty, accepts⟩ : ∃ exports,
      Dict.get package "capability_exports" = .arr exports ∧ exports ≠ [] ∧
        ∀ item ∈ exports, exportSchema serviceBindingSchema item = true := by
    cases found : Dict.get package "capability_exports" with
    | arr exports =>
        rw [found] at areExports
        simp only [array, Bool.and_eq_true, decide_eq_true_eq, List.all_eq_true] at areExports
        exact ⟨exports, rfl, List.ne_nil_of_length_pos areExports.1, areExports.2⟩
    | null => rw [found] at areExports; cases areExports
    | bool _ => rw [found] at areExports; cases areExports
    | int _ => rw [found] at areExports; cases areExports
    | float _ => rw [found] at areExports; cases areExports
    | str _ => rw [found] at areExports; cases areExports
    | obj _ => rw [found] at areExports; cases areExports
  obtain ⟨paths, arePaths⟩ := exportPaths_of_accepted accepts
  refine ⟨body, exports, paths, imageRef, healthPath, foundBody, foundExports, notEmpty, arePaths,
    isImage, searched, isHealth, ?_⟩
  rcases isPort with ⟨port, isPort, low, high⟩ | isFloat
  · exact Or.inl ⟨port, isPort, by exact_mod_cast low, by exact_mod_cast high⟩
  · exact Or.inr isFloat

section Plugin

variable {env : PluginEnv} {package : Dict} {identity : String × String}
  (identified : executionIdentity env package = .ok identity)

include identified

/-- What the plugin does with a package whose values have the right types. -/
theorem serviceValues_eq {body : Dict} {exports : List Json} {paths : List String}
    {imageRef healthPath : String} {port : Int} (foundBody : Dict.get package "body" = .obj body)
    (foundExports : Dict.get package "capability_exports" = .arr exports) (notEmpty : exports ≠ [])
    (arePaths : exports.mapM exportPath = .ok paths)
    (isImage : Dict.get body "image_ref" = .str imageRef)
    (isHealth : Dict.get body "health_path" = .str healthPath)
    (isPort : Dict.get body "container_port" = .int port) (inRange : 1 ≤ port ∧ port ≤ 65535) :
    serviceValues env package =
      if isImageRef imageRef = false then
        .error (runtimeError "runtime_plugin_capability_mismatch")
      else if ¬paths.Nodup then .error (runtimeError "service_endpoint_duplicate")
      else if healthPath ∈ paths then .error (runtimeError "service_health_endpoint_conflict")
      else .ok { imageRef, containerPort := port, healthPath, exports } := by
  unfold serviceValues
  rw [identified]
  dsimp only [bind, Except.bind]
  rw [foundBody, foundExports]
  dsimp only
  rw [isImage, isPort, isHealth]
  dsimp only
  by_cases isRef : isImageRef imageRef = false
  · rw [if_pos (Or.inr (Or.inl isRef)), if_pos isRef]
  · have passes : ¬(exports = [] ∨ isImageRef imageRef = false ∨ ¬(1 ≤ port ∧ port ≤ 65535)) := by
      rintro (isEmpty | isRef' | outside)
      · exact notEmpty isEmpty
      · exact isRef isRef'
      · exact outside inRange
    rw [if_neg passes, if_neg isRef, arePaths]

theorem serviceValues_float {body : Dict} {exports : List Json} {imageRef healthPath : String}
    {port : ℚ} (foundBody : Dict.get package "body" = .obj body)
    (foundExports : Dict.get package "capability_exports" = .arr exports)
    (isImage : Dict.get body "image_ref" = .str imageRef)
    (isHealth : Dict.get body "health_path" = .str healthPath)
    (isPort : Dict.get body "container_port" = .float port) :
    serviceValues env package =
      .error (runtimeError "runtime_plugin_capability_mismatch") := by
  unfold serviceValues
  rw [identified]
  dsimp only [bind, Except.bind]
  rw [foundBody, foundExports]
  dsimp only
  rw [isImage, isPort, isHealth]

omit identified in
/-- An image that is refused and a port that is no integer are not served. -/
theorem not_served (mismatch : serviceValues env package =
    .error (runtimeError "runtime_plugin_capability_mismatch")) : ¬Served env package := by
  rintro (⟨values, isValues⟩ | ⟨exports, paths, -, -, ⟨-, isError⟩ | ⟨-, isError⟩⟩)
  · rw [mismatch] at isValues
    cases isValues
  · rw [mismatch] at isError
    exact absurd isError (by decide)
  · rw [mismatch] at isError
    exact absurd isError (by decide)

theorem served_iff (accepted : containerHttpV1Schema (manifestOf package) = true) :
    Served env package ↔ Plain package := by
  obtain ⟨body, exports, paths, imageRef, healthPath, foundBody, foundExports, notEmpty, arePaths,
    isImage, searched, isHealth, isPort⟩ := accepted_parts accepted
  have isBody : bodyOf package = body := by
    unfold bodyOf
    rw [foundBody]
  unfold Plain
  rw [isBody]
  rcases isPort with ⟨port, isPort, inRange⟩ | ⟨port, isPort⟩
  · have values := serviceValues_eq identified foundBody foundExports notEmpty arePaths isImage
      isHealth isPort inRange
    by_cases isRef : isImageRef imageRef = true
    · have notFollowed : ¬LineFeedAfter (fun word => isImageRef word = true) imageRef := by
        rintro ⟨word, rfl, -⟩
        exact (oneLine_image isRef).1 (by simp)
      refine iff_of_true ?_ ⟨⟨imageRef, isImage, notFollowed⟩, port, isPort⟩
      rw [if_neg (by rw [isRef]; exact Bool.noConfusion)] at values
      unfold Served
      rw [values]
      by_cases distinct : paths.Nodup
      · rw [if_neg (not_not.2 distinct)]
        by_cases conflict : healthPath ∈ paths
        · rw [if_pos conflict]
          refine Or.inr ⟨exports, paths, foundExports, arePaths, Or.inr ⟨?_, rfl⟩⟩
          exact ⟨healthPath, conflict, by rw [isBody]; exact isHealth⟩
        · rw [if_neg conflict]
          exact Or.inl ⟨_, rfl⟩
      · rw [if_pos distinct]
        exact Or.inr ⟨exports, paths, foundExports, arePaths, Or.inl ⟨distinct, rfl⟩⟩
    · have refused : isImageRef imageRef = false := by simpa using isRef
      rw [if_pos refused] at values
      refine iff_of_false (not_served values) ?_
      rintro ⟨⟨other, isOther, notFollowed⟩, -⟩
      cases isImage.symm.trans isOther
      rcases (search_image imageRef).1 searched with isRef' | followed
      · exact isRef isRef'
      · exact notFollowed followed
  · have mismatch := serviceValues_float identified foundBody foundExports isImage isHealth isPort
    refine iff_of_false (not_served mismatch) ?_
    rintro ⟨-, number, isNumber⟩
    cases isPort.symm.trans isNumber

end Plugin

/-- The schema accepts the image references and the paths of the grammar, in one line, but where a
line feed follows them; and the plugin serves a package that the schema accepts where no line feed
follows its image and its port is written as an integer. -/
theorem contract_exact (env : PluginEnv) :
    (∀ text, ExactAt ociDigestRefPattern (fun word => isImageRef word = true) text ↔
      ¬LineFeedAfter (fun word => isImageRef word = true) text) ∧
    (∀ text, ExactAt originPathPattern IsOriginPath text ↔ ¬LineFeedAfter IsOriginPath text) ∧
    (∀ text, imageRe.fullmatch text = isImageRef text) ∧
    ∀ (package : Dict) (identity : String × String),
      executionIdentity env package = .ok identity →
      containerHttpV1Schema (manifestOf package) = true →
      (Served env package ↔ Plain package) :=
  ⟨exactAt_iff search_image fun _ => oneLine_image, exactAt_iff search_path fun _ => oneLine_path,
    imageRe_fullmatch, fun _ _ identified accepted => served_iff identified accepted⟩

/-! ### A service -/

/-- The functions of the plugin on texts without capitals. -/
def plainEnv : PluginEnv where
  str _ := ""
  lower text := text
  loads _ := none

/-- An image of an echo service. -/
def echoImage : String := "registry.example:5000/org/echo@sha256:" ++ Demo.digestOf 'a'

/-- A package of an echo service, with its identity. -/
def echoPackage (imageRef : String) (port : Json) : Dict :=
  [("package_type", .str "service"), ("package_id", .str "echo"), ("package_version", .str "1.0.0"),
    ("execution", .obj [("kind", .str "container:http"), ("version", .str "1")]),
    ("capability_exports", .arr [.obj
      [("capability_descriptor_ref", .obj [("resource_id", .str "descriptor://echo"),
          ("version_or_digest", .str (Demo.digestOf 'b')),
          ("identity_criterion", .str "descriptor_digest")]),
        ("io_contract_ref", .obj
          [("resource_id", .str ("content://sha256/" ++ Demo.digestOf 'c')),
            ("version_or_digest", .null), ("identity_criterion", .str "content_digest")]),
        ("effect_class", .str "pure"), ("permissions", .arr []), ("replay_safety", .str "safe"),
        ("runtime_binding", .obj [("path", .str "/v1/echo")])]]),
    ("body", .obj [("image_ref", .str imageRef), ("container_port", port),
      ("health_path", .str "/healthz")]),
    ("package_digest", .str (Demo.digestOf 'd'))]

def echoIdentity : String × String := ("capability-package://echo/1.0.0", Demo.digestOf 'd')

theorem isImageRef_echo : isImageRef echoImage = true := by decide

theorem isOriginPath_healthz : IsOriginPath "/healthz" :=
  ⟨"healthz".toList, by decide, by decide, by simp [IsControl]⟩

theorem executionIdentity_echo (imageRef : String) (port : Json) :
    executionIdentity plainEnv (echoPackage imageRef port) = .ok echoIdentity := by
  have isExecution : Dict.get (echoPackage imageRef port) "execution" =
      .obj [("kind", .str "container:http"), ("version", .str "1")] := rfl
  have isType : Dict.get (echoPackage imageRef port) "package_type" = .str "service" := rfl
  have isId : Dict.get (echoPackage imageRef port) "package_id" = .str "echo" := rfl
  have isVersion : Dict.get (echoPackage imageRef port) "package_version" = .str "1.0.0" := rfl
  have isDigest : plainEnv.lower (plainEnv.text ((Dict.get (echoPackage imageRef port)
      "package_digest").orElse (.str ""))) = Demo.digestOf 'd' := by
    change plainEnv.lower (plainEnv.text ((Json.str (Demo.digestOf 'd')).orElse (.str ""))) = _
    decide
  unfold executionIdentity
  rw [isExecution, isType, isId, isVersion]
  dsimp only
  rw [if_neg (by decide), isDigest, if_neg (by decide)]
  rfl

set_option maxRecDepth 4000 in
theorem accepted_echo :
    containerHttpV1Schema (manifestOf (echoPackage echoImage (.int 8080))) = true := by
  decide

set_option maxRecDepth 4000 in
theorem accepted_lineFeed :
    containerHttpV1Schema (manifestOf (echoPackage (echoImage ++ "\n") (.int 8080))) = true := by
  decide

set_option maxRecDepth 4000 in
theorem accepted_float :
    containerHttpV1Schema (manifestOf (echoPackage echoImage (.float 8080))) = true := by
  decide

/-- The echo service is served; with a line feed behind its image, or a port that is a float, it is
not. -/
theorem contract_exact_echo :
    Served plainEnv (echoPackage echoImage (.int 8080)) ∧
      ¬Served plainEnv (echoPackage (echoImage ++ "\n") (.int 8080)) ∧
      ¬Served plainEnv (echoPackage echoImage (.float 8080)) := by
  obtain ⟨-, -, -, serves⟩ := contract_exact plainEnv
  refine ⟨?_, ?_, ?_⟩
  · refine (serves _ _ (executionIdentity_echo _ _) accepted_echo).2
      ⟨⟨echoImage, rfl, ?_⟩, 8080, rfl⟩
    rintro ⟨word, same, -⟩
    refine (oneLine_image isImageRef_echo).1 ?_
    rw [same]
    simp
  · rw [serves _ _ (executionIdentity_echo _ _) accepted_lineFeed]
    rintro ⟨⟨imageRef, isImage, notFollowed⟩, -⟩
    cases isImage
    exact notFollowed ⟨echoImage, rfl, isImageRef_echo⟩
  · rw [serves _ _ (executionIdentity_echo _ _) accepted_float]
    rintro ⟨-, port, isPort⟩
    cases isPort

/-- The schema accepts an image reference and a path with a line feed behind them, and a package
with such an image, which the plugin refuses. -/
theorem schema_admits_line_feed :
    (∃ text, ociDigestRefPattern.search text = true ∧ ¬isImageRef text = true ∧ ¬OneLine text) ∧
    (∃ text, originPathPattern.search text = true ∧ ¬IsOriginPath text ∧ ¬OneLine text) ∧
    ∃ package, executionIdentity plainEnv package = .ok echoIdentity ∧
      containerHttpV1Schema (manifestOf package) = true ∧ ¬Served plainEnv package := by
  have broken : ∀ text, ¬OneLine (text ++ "\n") := fun text isLine => isLine.1 (by simp)
  refine ⟨⟨echoImage ++ "\n", ?_, ?_, broken _⟩, ⟨"/healthz" ++ "\n", ?_, ?_, broken _⟩, ?_⟩
  · exact (search_image _).2 (Or.inr ⟨echoImage, rfl, isImageRef_echo⟩)
  · exact fun isRef => broken _ (oneLine_image isRef)
  · exact (search_path _).2 (Or.inr ⟨"/healthz", rfl, isOriginPath_healthz⟩)
  · exact fun isPath => broken _ (oneLine_path isPath)
  · refine ⟨_, executionIdentity_echo (echoImage ++ "\n") (.int 8080), accepted_lineFeed, ?_⟩
    rw [served_iff (executionIdentity_echo _ _) accepted_lineFeed]
    rintro ⟨⟨imageRef, isImage, notFollowed⟩, -⟩
    cases isImage
    exact notFollowed ⟨echoImage, rfl, isImageRef_echo⟩

end HttpContract

end Loom
