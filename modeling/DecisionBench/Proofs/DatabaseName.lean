import DecisionBench.Proofs.ConnectionUrl

/-!
# Database names in connection URLs

In a URL the name of a database is the path behind the server.  It is percent coded
as the user name is, but is not decoded again.  So a name arrives as it is meant just
if nothing in it needs to be coded (`ofUrl_leaves_database_coded`), and a name with
a character that may not stand in a path is not given by any URL at all
(`isPathChar_of_ofUrl`).
-/

namespace DecisionBench

namespace Url

/-! ### Names with a dot in front -/

/-- A character that a name keeps where all its other octets are percent coded. -/
def isKept (c : Char) : Bool :=
  c.isAlphanum || c == '-' || c == '_' || c == '.'

theorem isPartChar_of_isKept {c : Char} (kept : isKept c = true) : isPartChar c = true := by
  simp only [isKept, Bool.or_eq_true] at kept
  simp only [isPartChar, isUnreserved, Bool.or_eq_true]
  exact .inl (.inl kept)

theorem isPlainClass_isKept : Percent.IsPlainClass isKept where
  ascii _ kept := toNat_lt_of_isPartChar (isPartChar_of_isKept kept)
  percent := by decide

/-- The digits that stand for a dot in a group. -/
def IsDotDigits (digits : List Char) : Prop :=
  digits = ['2', 'e'] ∨ digits = ['2', 'E']

theorem eq_of_afterDot? {segment rest : List Char} (after : afterDot? segment = some rest) :
    segment = '.' :: rest ∨
      ∃ digits, IsDotDigits digits ∧ segment = '%' :: (digits ++ rest) := by
  unfold afterDot? at after
  split at after
  · cases after
    exact .inl rfl
  · cases after
    exact .inr ⟨['2', 'e'], .inl rfl, rfl⟩
  · cases after
    exact .inr ⟨['2', 'E'], .inr rfl, rfl⟩
  · cases after

theorem ofNat_eq_dot {octet : Nat} (small : octet < 256)
    (digits : IsDotDigits (Percent.digitsOf octet)) : Char.ofNat octet = '.' := by
  have high : ∀ n < 16, (Nat.digitChar n).toUpper = '2' → n = 2 := by decide
  have low : ∀ n < 16, (Nat.digitChar n).toUpper = 'e' ∨ (Nat.digitChar n).toUpper = 'E' →
      n = 14 := by
    decide
  simp only [IsDotDigits, Percent.digitsOf, List.cons.injEq, and_true,
    ← and_or_left] at digits
  have two : octet / 16 = 2 := high _ (by omega) digits.1
  have fourteen : octet % 16 = 14 := low _ (by omega) digits.2
  have code : octet = 46 := by omega
  rw [code]

/-- A dot at the front of a written form is a dot of the text. -/
theorem exists_of_afterDot?_coded {text rest : List Char}
    (after : afterDot? (Percent.coded isKept text) = some rest) :
    ∃ more, text = '.' :: more ∧ rest = Percent.coded isKept more := by
  cases text with
  | nil => cases after
  | cons c text =>
      cases itself : isKept c with
      | true =>
          rw [Percent.coded_cons_of_plain isPlainClass_isKept itself] at after
          rcases eq_of_afterDot? after with dot | ⟨digits, -, group⟩
          · obtain ⟨rfl, same⟩ := List.cons.inj dot
            exact ⟨text, rfl, same.symm⟩
          · obtain ⟨rfl, -⟩ := List.cons.inj group
            cases itself
      | false =>
          obtain ⟨octet, more, small, outside, written⟩ :=
            Percent.exists_coded_cons_eq isPlainClass_isKept itself text
          rw [written] at after
          rcases eq_of_afterDot? after with dot | ⟨digits, dotDigits, group⟩
          · cases (List.cons.inj dot).1
          · have two : digits.length = 2 := by
              rcases dotDigits with rfl | rfl
              all_goals rfl
            have same := (List.append_inj (List.cons.inj group).2 two.symm).1
            rw [ofNat_eq_dot small (same ▸ dotDigits)] at outside
            cases outside

theorem isSingleDot_coded {text : List Char} (noDot : text ≠ ['.']) :
    isSingleDot (Percent.coded isKept text) = false := by
  apply beq_eq_false_iff_ne.mpr
  intro after
  obtain ⟨more, rfl, empty⟩ := exists_of_afterDot?_coded after
  cases more with
  | nil => exact noDot rfl
  | cons c more => exact Percent.coded_ne_nil (List.cons_ne_nil c more) empty.symm

theorem isDoubleDot_coded {text : List Char} (noDots : text ≠ ['.', '.']) :
    isDoubleDot (Percent.coded isKept text) = false := by
  unfold isDoubleDot
  split
  · next rest after =>
      obtain ⟨more, rfl, rfl⟩ := exists_of_afterDot?_coded after
      apply isSingleDot_coded
      rintro rfl
      exact noDots rfl
  · rfl

/-! ### A URL without a password and a port -/

theorem credentials_of_part {user : List Char} (userPart : IsPart user) :
    credentials user = (user, none) := by
  have noColon : ':' ∉ user := not_mem_of_isPartChar userPart.chars (by decide)
  have itself := userPart.encode_eq_self fun c => id
  simp [credentials, cutAtFirst?_eq_none noColon, itself]

theorem parse_name {scheme user host database : List Char} (foreign : IsForeignScheme scheme)
    (userPart : IsPart user) (hostPart : IsPart host) (databasePart : IsPart database)
    (noDot : isSingleDot database = false) (noDots : isDoubleDot database = false) :
    parse (String.ofList (scheme ++ ':' :: '/' :: '/' ::
        (user ++ '@' :: (host ++ []) ++ '/' :: database))) =
      .ok ⟨scheme, user, none, some host, none, '/' :: database⟩ := by
  have visible : ∀ c ∈ user ++ '@' :: (host ++ []) ++ '/' :: database, 0x20 < c.toNat := by
    simp only [List.append_nil, List.forall_mem_append, List.forall_mem_cons]
    exact ⟨⟨userPart.visible, by decide, hostPart.visible⟩, by decide, databasePart.visible⟩
  rw [parse_eq_parseAuthority foreign visible,
    parseAuthority_eq foreign userPart.nonempty userPart.inAuthority hostPart
      (List.forall_mem_nil _) List.not_mem_nil rfl rfl,
    credentials_of_part userPart, pathAfter_segment databasePart noDot noDots]

/-! ### What a path is made of -/

/-- A character that may stand in a path. -/
def isPathChar (c : Char) : Bool :=
  decide (c.toNat < 128) && !Percent.isPathCoded c

/-- All characters of the text may stand in a path. -/
def IsPathText (text : List Char) : Prop :=
  ∀ c ∈ text, isPathChar c = true

theorem isPathText_encode (text : List Char) :
    IsPathText (Percent.encode Percent.isPathCoded text) := by
  intro c member
  rcases Percent.of_mem_encode member with ⟨ascii, uncoded⟩ | rfl | alphanumeric
  · simp [isPathChar, ascii, uncoded]
  · decide
  · have part := isPartChar_of_isAlphanum alphanumeric
    have uncoded := (plain_of_isPartChar part).2.2.2
    simp only [Percent.isCredentialCoded, Bool.or_eq_false_iff] at uncoded
    simp [isPathChar, toNat_lt_of_isPartChar part, uncoded.1]

theorem withoutSegment_suffix (built : List Char) : withoutSegment built <:+ built := by
  unfold withoutSegment
  apply (List.dropWhile_suffix _).trans
  split
  · exact List.tail_suffix built
  · exact List.suffix_rfl

namespace IsPathText

variable {built segment : List Char}

theorem append (first : IsPathText segment) (second : IsPathText built) :
    IsPathText (segment ++ built) :=
  List.forall_mem_append.mpr ⟨first, second⟩

theorem slash (text : IsPathText built) : IsPathText ('/' :: built) :=
  List.forall_mem_cons.mpr ⟨by decide, text⟩

theorem reverse (text : IsPathText built) : IsPathText built.reverse :=
  fun c member => text c (List.mem_reverse.mp member)

theorem withSlash (text : IsPathText built) : IsPathText (withSlash built) := by
  unfold Url.withSlash
  split
  · exact text
  · exact text.slash

theorem withoutSegment (text : IsPathText built) : IsPathText (withoutSegment built) :=
  fun c member => text c ((withoutSegment_suffix built).subset member)

theorem addSegment (text : IsPathText built) (further : IsPathText segment) (slash : Bool) :
    IsPathText (addSegment built segment slash) := by
  unfold Url.addSegment
  split
  · split
    · exact text.withoutSegment.withSlash
    · exact text.withoutSegment
  · split
    · exact text.withSlash
    · split
      · exact (further.reverse.append text).slash
      · exact further.reverse.append text

/-- Whatever is read, a path is built of characters that may stand in it. -/
theorem addPath {isSlash : Char → Bool} (text : IsPathText built) (segment rest : List Char) :
    IsPathText (addPath isSlash built segment rest) := by
  induction rest generalizing built segment with
  | nil => exact text.addSegment (isPathText_encode _) false
  | cons c rest induction =>
      rw [Url.addPath]
      split
      · exact text.addSegment (isPathText_encode _) false
      · split
        · exact induction (text.addSegment (isPathText_encode _) true) []
        · exact induction text (c :: segment)

end IsPathText

theorem isPathText_nil : IsPathText [] :=
  fun _ member => (List.not_mem_nil member).elim

theorem isPathText_pathAfter (isWeb : Bool) (text : List Char) :
    IsPathText (pathAfter isWeb text) := by
  have root : IsPathText ['/'] := isPathText_nil.slash
  unfold pathAfter
  dsimp only
  split
  · split
    · exact root
    · exact isPathText_nil
  · split
    · exact (root.addPath _ _).reverse
    · split
      · exact isPathText_nil
      · split
        · exact (isPathText_nil.addPath _ _).reverse
        · exact (root.addPath _ _).reverse

/-- Behind a host there is only a path. -/
theorem path_of_parseAuthority {scheme text : List Char} {url : Url}
    (parsed : parseAuthority scheme text = .ok url) :
    ∃ isWeb rest, url.path = pathAfter isWeb rest := by
  unfold parseAuthority at parsed
  simp only [bind, Except.bind, pure, Except.pure, throw, throwThe,
    MonadExceptOf.throw] at parsed
  -- However the login, the host and the port are read, the path is read behind them.
  repeat' split at parsed
  all_goals cases parsed
  all_goals exact ⟨_, _, rfl⟩

/-- Without a host, what is behind a slash is a path all the same. -/
theorem isPathText_of_parsePlain {scheme text rest : List Char}
    (slash : (parsePlain scheme text).path = '/' :: rest) : IsPathText rest := by
  unfold parsePlain at slash
  split at slash
  · next behind =>
      have path : IsPathText (addPath (· == '/') ['/'] [] behind).reverse :=
        (isPathText_nil.slash.addPath [] behind).reverse
      dsimp only at slash
      rw [slash] at path
      exact (List.forall_mem_cons.mp path).2
  · next noSlash =>
      obtain ⟨more, front⟩ := Percent.exists_of_encode_eq_cons (by decide) slash
      obtain ⟨behind, split⟩ : text.takeWhile (!endsPath ·) <+: text :=
        List.takeWhile_prefix _
      rw [front] at split
      exact (noSlash _ split.symm).elim

theorem scheme_of_parseFile {text : List Char} {url : Url}
    (parsed : parseFile text = .ok url) : url.scheme = "file".toList := by
  unfold parseFile at parsed
  dsimp only at parsed
  repeat' split at parsed
  all_goals cases parsed
  all_goals rfl

theorem isPathText_of_parse {text : String} {url : Url} {rest : List Char}
    (parsed : parse text = .ok url) (noFile : url.scheme ≠ "file".toList)
    (slash : url.path = '/' :: rest) : IsPathText rest := by
  have behindHost : ∀ {scheme more}, parseAuthority scheme more = .ok url →
      IsPathText rest := by
    intro scheme more parsed
    obtain ⟨isWeb, behind, path⟩ := path_of_parseAuthority parsed
    have whole := isPathText_pathAfter isWeb behind
    rw [← path, slash] at whole
    exact (List.forall_mem_cons.mp whole).2
  unfold parse at parsed
  split at parsed
  · cases parsed
  · split at parsed
    · exact (noFile (scheme_of_parseFile parsed)).elim
    · split at parsed
      · exact behindHost parsed
      · split at parsed
        · exact behindHost parsed
        · cases parsed
          exact isPathText_of_parsePlain slash

end Url

namespace Settings

open Url

/-- A name as a part of a URL that keeps few characters. -/
def codedName (name : String) : String :=
  codedText isKept name

/-- The URL of a database of a server, for a user. -/
def databaseUrl (user host database : String) : String :=
  "mysql://" ++ codedName user ++ "@" ++ host ++ "/" ++ codedName database

theorem decoded_codedName (name : String) : decoded (codedName name).toList = .ok name :=
  decoded_codedText isPlainClass_isKept name

theorem isPart_codedName {name : String} (nonempty : name ≠ "") :
    IsPart (codedName name).toList :=
  isPart_codedText (fun _ => isPartChar_of_isKept) nonempty

theorem toList_codedName (name : String) :
    (codedName name).toList = Percent.coded isKept name.toList := by
  rw [codedName, codedText, String.toList_ofList]

theorem codedName_eq_self_iff {name : String} :
    codedName name = name ↔ ∀ c ∈ name.toList, isKept c = true := by
  rw [← Percent.coded_eq_self_iff isPlainClass_isKept, ← toList_codedName,
    String.toList_inj]

/-- The database that a URL gives is a path behind a slash. -/
theorem path_of_ofUrlParts {url : Url} {settings : Settings}
    (given : ofUrlParts url = .ok settings) :
    url.scheme ≠ "file".toList ∧
      ∀ name, settings.database = some name → url.path = '/' :: name.toList := by
  unfold ofUrlParts at given
  dsimp only [bind, Except.bind, pure, Except.pure, throw, throwThe,
    MonadExceptOf.throw] at given
  split at given
  · cases given
  · next known =>
      constructor
      · intro file
        apply known
        rw [file]
        decide
      · intro name named
        -- Whatever the login is, the database is what stands behind the slash.
        repeat' split at given
        all_goals cases given
        all_goals cases named
        all_goals rwa [String.toList_ofList]

/-- No URL gives a database with a character that may not stand in a path. -/
theorem isPathChar_of_ofUrl {text name : String} {settings : Settings}
    (given : ofUrl text = .ok settings) (named : settings.database = some name) :
    ∀ c ∈ name.toList, isPathChar c = true := by
  unfold ofUrl at given
  split at given
  · cases given
  · next parsed =>
      obtain ⟨noFile, database⟩ := path_of_ofUrlParts given
      exact isPathText_of_parse parsed noFile (database name named)

theorem ofUrl_databaseUrl {user host database : String} (someUser : user ≠ "")
    (hostWord : IsWord [] host) (someDatabase : database ≠ "") (noDot : database ≠ ".")
    (noDots : database ≠ "..") :
    ofUrl (databaseUrl user host database) =
      .ok ⟨some host, none, some user, none, some (codedName database)⟩ := by
  have foreign : IsForeignScheme "mysql".toList := isForeignScheme_of_server (.inl rfl)
  have userPart := isPart_codedName someUser
  have hostPart := hostWord.isPart (by simp)
  have databasePart := isPart_codedName someDatabase
  have noSingle : isSingleDot (codedName database).toList = false := by
    rw [toList_codedName]
    exact isSingleDot_coded fun dot => noDot (String.toList_inj.mp dot)
  have noDouble : isDoubleDot (codedName database).toList = false := by
    rw [toList_codedName]
    exact isDoubleDot_coded fun dots => noDots (String.toList_inj.mp dots)
  have written : databaseUrl user host database =
      String.ofList ("mysql".toList ++ ':' :: '/' :: '/' ::
        ((codedName user).toList ++ '@' :: (host.toList ++ []) ++
          '/' :: (codedName database).toList)) := by
    apply String.toList_inj.mp
    simp [databaseUrl]
  have named : codedName database ≠ "" :=
    fun empty => databasePart.nonempty (String.toList_eq_nil_iff.mpr empty)
  rw [written, ofUrl, parse_name foreign userPart hostPart databasePart noSingle noDouble]
  exact ofUrlParts_of_meant (.inl rfl) userPart.nonempty (decoded_codedName user) rfl named

/-- The user arrives as it is meant, and the database as it is written: percent coded,
unless there is nothing to code. -/
theorem ofUrl_leaves_database_coded {user host database : String} (someUser : user ≠ "")
    (hostWord : IsWord [] host) (someDatabase : database ≠ "") (noDot : database ≠ ".")
    (noDots : database ≠ "..") :
    ofUrl (databaseUrl user host database) =
        .ok ⟨some host, none, some user, none, some (codedName database)⟩ ∧
      decoded (codedName database).toList = .ok database ∧
      (ofUrl (databaseUrl user host database) =
          .ok ⟨some host, none, some user, none, some database⟩ ↔
        ∀ c ∈ database.toList, isKept c = true) ∧
      ((∃ c ∈ database.toList, isPathChar c = false) →
        ∀ text settings, ofUrl text = .ok settings → settings.database ≠ some database) := by
  have given := ofUrl_databaseUrl someUser hostWord someDatabase noDot noDots
  refine ⟨given, decoded_codedName database, ?_, ?_⟩
  · rw [given, ← codedName_eq_self_iff]
    simp
  · rintro ⟨c, member, outside⟩ text settings other named
    have inside := isPathChar_of_ofUrl other named c member
    rw [outside] at inside
    cases inside

/-- A slash and a letter beyond ASCII stay in groups, while the user name is decoded. -/
theorem letters_stay_in_groups :
    ofUrl "mysql://r%40%C3%A9@Db1/..%2F%7Em%C3%A4" =
        .ok ⟨some "Db1", none, some "r@é", none, some "..%2F%7Em%C3%A4"⟩ ∧
      ∀ text settings, ofUrl text = .ok settings → settings.database ≠ some "../~mä" := by
  have url : databaseUrl "r@é" "Db1" "../~mä" = "mysql://r%40%C3%A9@Db1/..%2F%7Em%C3%A4" := by
    decide +kernel
  have name : codedName "../~mä" = "..%2F%7Em%C3%A4" := by decide +kernel
  have ⟨given, _, _, unnamed⟩ := @ofUrl_leaves_database_coded "r@é" "Db1" "../~mä" (by decide)
    ⟨by decide, by simp [Char.isAlphanum]⟩ (by decide) (by decide) (by decide)
  rw [url, name] at given
  exact ⟨given, unnamed ⟨'ä', by decide, by decide⟩⟩

/-- A name with a blank does not arrive as it is meant. -/
theorem blank_arrives_as_group :
    databaseUrl "root" "db" "my data" = "mysql://root@db/my%20data" ∧
      ofUrl "mysql://root@db/my%20data" =
        .ok ⟨some "db", none, some "root", none, some "my%20data"⟩ ∧
      ofUrl "mysql://root@db/my%20data" ≠
        .ok ⟨some "db", none, some "root", none, some "my data"⟩ := by
  have url : databaseUrl "root" "db" "my data" = "mysql://root@db/my%20data" := by
    decide +kernel
  have name : codedName "my data" = "my%20data" := by decide +kernel
  have given := @ofUrl_databaseUrl "root" "db" "my data" (by decide)
    ⟨by decide, by simp [Char.isAlphanum]⟩ (by decide) (by decide) (by decide)
  rw [url, name] at given
  refine ⟨url, given, ?_⟩
  rw [given]
  simp

end Settings

end DecisionBench
