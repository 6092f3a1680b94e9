import LinkShortener.Settings.Basic
import LinkShortener.Proofs.Text.Ascii
import Mathlib.Data.List.TakeWhile

/-! # What masking leaves of a password

A connection URL is put together from parts that may hold any character, and is masked as a whole. A
password is hidden as far as it has no colon and no at sign: what stands before its last colon and what
follows its first at sign is still shown.
-/

namespace LinkShortener.Settings

/-- What of a password is still shown: what stands before the last colon of the part without at signs,
if there is one, and everything from the first at sign on. -/
def exposed (password : List Char) : Option (List Char) × List Char :=
  (beforeLastColon? (password.takeWhile (· != '@')), password.dropWhile (· != '@'))

/-- What is shown in the place of a password. -/
def shown (password : List Char) : List Char :=
  ((exposed password).1.map (':' :: ·)).getD [] ++ [':', '*', '*', '*'] ++ (exposed password).2

/-- A URL with a user name and a password, and what follows the at sign. -/
def withCredentials (scheme user password rest : List Char) : List Char :=
  scheme ++ schemeMark ++ (user ++ ':' :: (password ++ '@' :: rest))

/-! ## Colons -/

private theorem passes_of_not_mem {mark : Char} {text : List Char} (absent : mark ∉ text) :
    ∀ c ∈ text, (c != mark) = true := by
  intro c member
  simpa using ne_of_mem_of_not_mem member absent

private theorem reverse_dropWhile_colon {before after : List Char} (last : ':' ∉ after) :
    (before ++ ':' :: after).reverse.dropWhile (· != ':') = ':' :: before.reverse := by
  have passed := passes_of_not_mem (mt List.mem_reverse.mp last)
  rw [List.reverse_append, List.reverse_cons, List.append_assoc,
    List.dropWhile_append_of_pos passed]
  rfl

theorem beforeLastColon?_append {before after : List Char} (last : ':' ∉ after) :
    beforeLastColon? (before ++ ':' :: after) = some before := by
  rw [beforeLastColon?, reverse_dropWhile_colon last]
  exact congrArg some (List.reverse_reverse before)

theorem beforeLastColon?_eq_none {text : List Char} (colonless : ':' ∉ text) :
    beforeLastColon? text = none := by
  have passed := passes_of_not_mem (mt List.mem_reverse.mp colonless)
  rw [beforeLastColon?, List.dropWhile_eq_nil_iff.mpr passed]

theorem exists_last_colon {text : List Char} (colon : ':' ∈ text) :
    ∃ before after, text = before ++ ':' :: after ∧ ':' ∉ after := by
  rcases List.eq_append_cons_of_mem (List.mem_reverse.mpr colon) with ⟨after, before, parts, first⟩
  refine ⟨before.reverse, after.reverse, ?_, by simpa using first⟩
  rw [← List.reverse_reverse text, parts]
  simp

/-- The last colon of user name and password together. -/
theorem beforeLastColon?_credentials (user front : List Char) :
    beforeLastColon? (user ++ ':' :: front) =
      some (user ++ ((beforeLastColon? front).map (':' :: ·)).getD []) := by
  by_cases colon : ':' ∈ front
  · rcases exists_last_colon colon with ⟨before, after, rfl, last⟩
    rw [beforeLastColon?_append last,
      show user ++ ':' :: (before ++ ':' :: after) = (user ++ ':' :: before) ++ ':' :: after by simp,
      beforeLastColon?_append last]
    rfl
  · rw [beforeLastColon?_eq_none colon, beforeLastColon?_append colon]
    simp

/-- Nothing stays exposed just of the passwords without colon and at sign. -/
theorem exposed_eq_nothing_iff {password : List Char} :
    exposed password = (none, []) ↔ ':' ∉ password ∧ '@' ∉ password := by
  have signless : password.dropWhile (· != '@') = [] ↔ '@' ∉ password := by
    rw [List.dropWhile_eq_nil_iff]
    exact ⟨fun passed member => by simpa using passed _ member, passes_of_not_mem⟩
  rw [exposed, Prod.mk.injEq, signless]
  constructor
  · rintro ⟨hidden, absent⟩
    refine ⟨fun colon => ?_, absent⟩
    have whole : password.takeWhile (· != '@') = password :=
      List.takeWhile_eq_self_iff.mpr (List.dropWhile_eq_nil_iff.mp (signless.mpr absent))
    rcases exists_last_colon colon with ⟨before, after, rfl, last⟩
    rw [whole, beforeLastColon?_append last] at hidden
    cases hidden
  · rintro ⟨colonless, absent⟩
    exact ⟨beforeLastColon?_eq_none fun colon => colonless ((List.takeWhile_prefix _).subset colon),
      absent⟩

/-! ## Masked URLs -/

theorem splitAtMark?_scheme {scheme rest : List Char} (colonless : ':' ∉ scheme) :
    splitAtMark? schemeMark (scheme ++ schemeMark ++ rest) = some (scheme, rest) := by
  induction scheme with
  | nil => rfl
  | cons first scheme induction =>
      rw [List.mem_cons, not_or] at colonless
      have here : schemeMark.isPrefixOf (first :: (scheme ++ schemeMark ++ rest)) = false := by
        simp [schemeMark, List.isPrefixOf, colonless.1]
      rw [List.cons_append, List.cons_append, splitAtMark?, here, if_neg Bool.false_ne_true,
        induction colonless.2]
      rfl

/-- Where the user name has no at sign, the password is masked but for what stays exposed of it. -/
theorem maskPassword_withCredentials {scheme user : List Char} (colonless : ':' ∉ scheme)
    (signless : '@' ∉ user) (password rest : List Char) :
    maskPassword (withCredentials scheme user password rest) =
      scheme ++ schemeMark ++ user ++ (shown password ++ '@' :: rest) := by
  have passed : ∀ c ∈ user ++ [':'], (c != '@') = true :=
    passes_of_not_mem (by simpa using signless)
  have credentials : (user ++ ':' :: (password ++ '@' :: rest)).takeWhile (· != '@') =
      user ++ ':' :: password.takeWhile (· != '@') := by
    rw [List.append_cons, List.takeWhile_append_of_pos passed, List.takeWhile_append]
    split
    next whole => simp [(List.takeWhile_prefix _).eq_of_length whole]
    next => simp
  have host : (user ++ ':' :: (password ++ '@' :: rest)).dropWhile (· != '@') =
      password.dropWhile (· != '@') ++ '@' :: rest := by
    rw [List.append_cons, List.dropWhile_append_of_pos passed, List.dropWhile_append]
    split
    next passed =>
      rw [List.isEmpty_iff] at passed
      rw [passed]
      rfl
    · rfl
  rw [maskPassword, withCredentials, splitAtMark?_scheme colonless]
  dsimp only
  rw [credentials, host, beforeLastColon?_credentials]
  unfold shown exposed
  cases password.dropWhile (· != '@') with
  | nil => simp
  | cons sign behind => simp

/-- Where the user name has an at sign, the whole password is shown. -/
theorem maskPassword_of_sign {scheme user : List Char} (colonless : ':' ∉ scheme)
    (sign : '@' ∈ user) :
    ∃ shown, ∀ password rest, maskPassword (withCredentials scheme user password rest) =
      shown ++ (password ++ '@' :: rest) := by
  rcases List.eq_append_cons_of_mem sign with ⟨before, after, rfl, first⟩
  have passed := passes_of_not_mem first
  have parts : ∀ password rest, (before ++ '@' :: after ++ ':' :: (password ++ '@' :: rest)) =
      before ++ '@' :: (after ++ ':' :: (password ++ '@' :: rest)) := by simp
  have credentials : ∀ others, (before ++ '@' :: others).takeWhile (· != '@') = before := by
    intro others
    rw [List.takeWhile_append_of_pos passed]
    simp
  have host : ∀ others, (before ++ '@' :: others).dropWhile (· != '@') = '@' :: others := by
    intro others
    rw [List.dropWhile_append_of_pos passed]
    simp
  cases user : beforeLastColon? before with
  | none =>
      refine ⟨scheme ++ schemeMark ++ (before ++ '@' :: (after ++ [':'])), fun password rest => ?_⟩
      rw [maskPassword, withCredentials, splitAtMark?_scheme colonless, parts]
      dsimp only
      rw [credentials, host, user]
      simp
  | some name =>
      refine ⟨scheme ++ schemeMark ++ name ++ [':', '*', '*', '*'] ++ ('@' :: (after ++ [':'])),
        fun password rest => ?_⟩
      rw [maskPassword, withCredentials, splitAtMark?_scheme colonless, parts]
      dsimp only
      rw [credentials, host, user]
      simp

private theorem takeWhile_shown (password : List Char) :
    (shown password).takeWhile (· != '@') =
      ((exposed password).1.map (':' :: ·)).getD [] ++ [':', '*', '*', '*'] := by
  have signless : '@' ∉ ((exposed password).1.map (':' :: ·)).getD [] ++ [':', '*', '*', '*'] := by
    have front : '@' ∉ password.takeWhile (· != '@') := fun member => by
      simpa using List.mem_takeWhile_imp member
    unfold exposed
    dsimp only
    by_cases colon : ':' ∈ password.takeWhile (· != '@')
    · rcases exists_last_colon colon with ⟨before, after, parts, last⟩
      rw [parts] at front ⊢
      rw [beforeLastColon?_append last]
      simpa using fun member => front (List.mem_append_left _ member)
    · rw [beforeLastColon?_eq_none colon]
      decide
  have behind : ((exposed password).2).takeWhile (· != '@') = [] := by
    unfold exposed
    dsimp only
    cases dropped : password.dropWhile (· != '@') with
    | nil => rfl
    | cons sign rest =>
        have stops := List.head?_dropWhile_not (· != '@') password
        rw [dropped] at stops
        rw [List.takeWhile_cons_of_neg (by rw [show (sign != '@') = false from stops]; decide)]
  rw [shown, List.takeWhile_append_of_pos (passes_of_not_mem signless), behind, List.append_nil]

/-- Two passwords of one user are shown in the same way only if the same of them stays exposed. -/
private theorem exposed_eq_of_shown {password other : List Char}
    (same : shown other = shown password) : exposed other = exposed password := by
  have front := congrArg (List.takeWhile (· != '@')) same
  rw [takeWhile_shown, takeWhile_shown] at front
  have behind : (exposed other).2 = (exposed password).2 := by
    rw [shown, shown, front] at same
    exact List.append_cancel_left same
  have before := List.append_cancel_right front
  refine Prod.ext ?_ behind
  cases own : (exposed password).1 <;> cases theirs : (exposed other).1 <;>
    simp_all

theorem maskPassword_eq_iff {scheme user : List Char} (colonless : ':' ∉ scheme)
    (password other rest : List Char) :
    maskPassword (withCredentials scheme user other rest) =
        maskPassword (withCredentials scheme user password rest) ↔
      other = password ∨ '@' ∉ user ∧ exposed other = exposed password := by
  by_cases sign : '@' ∈ user
  · rcases maskPassword_of_sign colonless sign with ⟨shown, masks⟩
    rw [masks, masks, List.append_cancel_left_eq, List.append_cancel_right_eq]
    simp [sign]
  · rw [maskPassword_withCredentials colonless sign, maskPassword_withCredentials colonless sign]
    constructor
    · intro same
      exact .inr ⟨sign, exposed_eq_of_shown
        (List.append_cancel_right (List.append_cancel_left same))⟩
    · rintro (rfl | ⟨-, same⟩)
      · rfl
      · rw [shown, same, ← shown]

/-! ## Settings -/

/-- What follows the at sign of a URL that is put together from parts. -/
def address (host port name : String) : List Char :=
  host.toList ++ ':' :: (port.toList ++ '/' :: name.toList)

theorem masked_eq_iff {url other : String} :
    masked other = masked url ↔ maskPassword other.toList = maskPassword url.toList :=
  String.ofList_inj

theorem hasScheme_withCredentials (user password rest : List Char) {scheme url : String}
    (second : String) (parts : url.toList = withCredentials scheme.toList user password rest) :
    hasScheme (scheme ++ "://") second url = true := by
  have front : (scheme ++ "://").toList <+: url.toList := by
    rw [parts, withCredentials, String.toList_append]
    exact List.prefix_append _ _
  rw [hasScheme, List.isPrefixOf_iff_prefix.mpr front, Bool.true_or]

/-- The lines show the URLs masked, and settings that differ in the URLs only in no other way. -/
theorem summary_eq_iff {settings : Settings} {databaseUrl redisUrl ownRedisUrl : String}
    (cached : settings.redisUrl = some ownRedisUrl) :
    { settings with databaseUrl, redisUrl := some redisUrl }.summary = settings.summary ↔
      masked databaseUrl = masked settings.databaseUrl ∧ masked redisUrl = masked ownRedisUrl := by
  simp [summary, cached]

/-- Settings that differ in URLs with the right schemes only are all valid or all invalid for the same
reason. -/
theorem validate_eq {settings : Settings} {databaseUrl redisUrl ownRedisUrl : String}
    (cached : settings.redisUrl = some ownRedisUrl)
    (database : hasScheme "postgres://" "postgresql://" databaseUrl = true)
    (ownDatabase : hasScheme "postgres://" "postgresql://" settings.databaseUrl = true)
    (cache : hasScheme "redis://" "rediss://" redisUrl = true)
    (ownCache : hasScheme "redis://" "rediss://" ownRedisUrl = true) :
    { settings with databaseUrl, redisUrl := some redisUrl }.validate = settings.validate := by
  unfold validate
  simp only [cached, database, ownDatabase, cache, ownCache, Bool.not_true, Bool.false_eq_true,
    ↓reduceIte]

end Settings

/-- An environment that sets the parts of the URLs of database and cache, and neither as a whole. -/
structure Environment.SetsParts (environment : Environment)
    (user password cachePassword : String) : Prop where
  databaseUnset : environment.text? "DATABASE_URL" = none
  cacheUnset : environment.text? "REDIS_URL" = none
  userSet : environment.text? "DB_USER" = some user
  passwordSet : environment.text? "DB_PASSWORD" = some password
  nameSet : ∃ name, environment.text? "DB_NAME" = some name
  hostSet : ∃ host, environment.text? "REDIS_HOST" = some host
  cachePasswordSet : environment.text? "REDIS_PASSWORD" = some cachePassword
  cacheLocked : cachePassword ≠ ""

/-- Two environments that are the same but for the passwords. -/
def Environment.SharesAllButPasswords (first second : Environment) : Prop :=
  ∀ name, name ≠ "DB_PASSWORD" → name ≠ "REDIS_PASSWORD" → second.read name = first.read name

theorem Environment.SharesAllButPasswords.text? {first second : Environment}
    (shares : first.SharesAllButPasswords second) {name : String} (database : name ≠ "DB_PASSWORD")
    (cache : name ≠ "REDIS_PASSWORD") : second.text? name = first.text? name :=
  congrArg Except.toOption (shares name database cache)

namespace Settings

variable {environment first second : Environment} {user password other cachePassword
  otherCachePassword : String}

theorem required_of_text {name text : String} (set : environment.text? name = some text) :
    required environment name = .ok text := by
  unfold Environment.text? at set
  unfold required
  cases read : environment.read name with
  | ok value =>
      rw [read] at set
      cases set
      rfl
  | error absence =>
      rw [read] at set
      cases set

theorem databaseUrlFrom_of_parts (parts : environment.SetsParts user password cachePassword)
    {name : String} (named : environment.text? "DB_NAME" = some name) :
    ∃ url, databaseUrlFrom environment = .ok url ∧
      url.toList = withCredentials "postgres".toList user.toList password.toList
        (address (environment.text "DB_HOST" "localhost") (environment.text "DB_PORT" "5432") name) := by
  refine ⟨"postgres://" ++ user ++ ":" ++ password ++ "@" ++ environment.text "DB_HOST" "localhost" ++
    ":" ++ environment.text "DB_PORT" "5432" ++ "/" ++ name, ?_, ?_⟩
  · rw [databaseUrlFrom, parts.databaseUnset, required_of_text parts.userSet,
      required_of_text parts.passwordSet, required_of_text named]
    rfl
  · simp [withCredentials, schemeMark, address]

theorem redisUrlFrom_of_parts (parts : environment.SetsParts user password cachePassword)
    {host : String} (hosted : environment.text? "REDIS_HOST" = some host) :
    ∃ url, redisUrlFrom environment = some url ∧
      url.toList = withCredentials "redis".toList [] cachePassword.toList
        (address host (environment.text "REDIS_PORT" "6379") (environment.text "REDIS_DB" "0")) := by
  have locked : (environment.text "REDIS_PASSWORD" "").isEmpty = false := by
    rw [Environment.text, parts.cachePasswordSet]
    simpa using parts.cacheLocked
  refine ⟨"redis://" ++ (":" ++ cachePassword ++ "@") ++ host ++ ":" ++
    environment.text "REDIS_PORT" "6379" ++ "/" ++ environment.text "REDIS_DB" "0", ?_, ?_⟩
  · rw [redisUrlFrom, parts.cacheUnset, hosted]
    dsimp only [bind, Option.bind]
    rw [locked, show environment.text "REDIS_PASSWORD" "" = cachePassword by
      rw [Environment.text, parts.cachePasswordSet]
      rfl]
    rfl
  · simp [withCredentials, schemeMark, address]

/-- The settings from two environments that are the same but for the passwords differ in the URLs
only. -/
theorem ofEnvironment_of_shares (shares : first.SharesAllButPasswords second) {settings : Settings}
    {url : String} (made : ofEnvironment first = .ok settings)
    (database : databaseUrlFrom second = .ok url) :
    ofEnvironment second =
      .ok { settings with databaseUrl := url, redisUrl := redisUrlFrom second } := by
  cases ownDatabase : databaseUrlFrom first with
  | error error =>
      rw [ofEnvironment, ownDatabase] at made
      cases made
  | ok ownUrl =>
      rw [ofEnvironment, ownDatabase] at made
      cases made
      rw [ofEnvironment, database]
      simp (disch := decide) only [baseUrlFrom, Environment.text, Environment.switch,
        Environment.number, shares.text?]
      rfl

theorem exists_of_databaseUrlFrom {url : String} (found : databaseUrlFrom environment = .ok url) :
    ∃ settings, ofEnvironment environment = .ok settings ∧ settings.databaseUrl = url ∧
      settings.redisUrl = redisUrlFrom environment := by
  rw [ofEnvironment, found]
  exact ⟨_, rfl, rfl, rfl⟩

/-- What two environments with different passwords come to: settings that are equally valid, and lines
that tell the passwords apart exactly where the URLs of database and cache do when they are masked. -/
theorem ofEnvironment_of_parts (shares : first.SharesAllButPasswords second)
    (parts : first.SetsParts user password cachePassword)
    (otherParts : second.SetsParts user other otherCachePassword) :
    ∃ settings theirs rest cacheRest, ofEnvironment first = .ok settings ∧
      ofEnvironment second = .ok theirs ∧ theirs.validate = settings.validate ∧
      (theirs.summary = settings.summary ↔
        maskPassword (withCredentials "postgres".toList user.toList other.toList rest) =
          maskPassword (withCredentials "postgres".toList user.toList password.toList rest) ∧
        maskPassword (withCredentials "redis".toList [] otherCachePassword.toList cacheRest) =
          maskPassword (withCredentials "redis".toList [] cachePassword.toList cacheRest)) := by
  rcases parts.nameSet with ⟨name, named⟩
  rcases parts.hostSet with ⟨host, hosted⟩
  have same : ∀ {name}, name ≠ "DB_PASSWORD" → name ≠ "REDIS_PASSWORD" →
      second.text? name = first.text? name := shares.text?
  have text : ∀ {name} default, name ≠ "DB_PASSWORD" → name ≠ "REDIS_PASSWORD" →
      second.text name default = first.text name default := fun default database cache =>
    congrArg (Option.getD · default) (same database cache)
  rcases databaseUrlFrom_of_parts parts named with ⟨url, found, urlParts⟩
  rcases redisUrlFrom_of_parts parts hosted with ⟨cacheUrl, cached, cacheUrlParts⟩
  rcases databaseUrlFrom_of_parts otherParts ((same (by decide) (by decide)).trans named) with
    ⟨otherUrl, otherFound, otherUrlParts⟩
  rcases redisUrlFrom_of_parts otherParts ((same (by decide) (by decide)).trans hosted) with
    ⟨otherCacheUrl, otherCached, otherCacheUrlParts⟩
  rw [text _ (by decide) (by decide), text _ (by decide) (by decide)] at otherUrlParts
  rw [text _ (by decide) (by decide), text _ (by decide) (by decide)] at otherCacheUrlParts
  rcases exists_of_databaseUrlFrom found with ⟨settings, made, ownUrl, ownCacheUrl⟩
  rw [cached] at ownCacheUrl
  have otherMade := ofEnvironment_of_shares shares made otherFound
  rw [otherCached] at otherMade
  refine ⟨settings, _,
    address (first.text "DB_HOST" "localhost") (first.text "DB_PORT" "5432") name,
    address host (first.text "REDIS_PORT" "6379") (first.text "REDIS_DB" "0"),
    made, otherMade, ?_, ?_⟩
  · have ownDatabase : hasScheme "postgres://" "postgresql://" settings.databaseUrl = true := by
      rw [ownUrl]
      exact hasScheme_withCredentials _ _ _ _ urlParts
    exact validate_eq ownCacheUrl (hasScheme_withCredentials _ _ _ _ otherUrlParts) ownDatabase
      (hasScheme_withCredentials _ _ _ _ otherCacheUrlParts)
      (hasScheme_withCredentials _ _ _ _ cacheUrlParts)
  · rw [summary_eq_iff ownCacheUrl, masked_eq_iff, masked_eq_iff, ownUrl, urlParts, otherUrlParts,
      cacheUrlParts, otherCacheUrlParts]

/-- Whatever passwords are set, the settings are equally valid. The lines that show them are the same
exactly where the same of the passwords stays exposed and no at sign in the user name exposes the whole
password of the database. -/
theorem summary_eq_iff_exposed (shares : first.SharesAllButPasswords second)
    (parts : first.SetsParts user password cachePassword)
    (otherParts : second.SetsParts user other otherCachePassword) :
    ∃ settings theirs, ofEnvironment first = .ok settings ∧ ofEnvironment second = .ok theirs ∧
      theirs.validate = settings.validate ∧
      (theirs.summary = settings.summary ↔
        (other = password ∨ '@' ∉ user.toList ∧ exposed other.toList = exposed password.toList) ∧
          exposed otherCachePassword.toList = exposed cachePassword.toList) := by
  rcases ofEnvironment_of_parts shares parts otherParts with
    ⟨settings, theirs, rest, cacheRest, made, otherMade, valid, shown⟩
  refine ⟨settings, theirs, made, otherMade, valid, shown.trans ?_⟩
  rw [maskPassword_eq_iff (by decide), maskPassword_eq_iff (by decide), String.toList_inj]
  have alone : ('@' ∉ ([] : List Char)) = True := by simp
  rw [alone, true_and]
  exact and_congr_right fun _ => ⟨fun same => same.elim (congrArg exposed) id, .inr⟩

end Settings

/-! ## Environments that hold two passwords -/

namespace Environment

theorem text?_of_lookup {environment : Environment} {name text : String}
    (ascii : ∀ c ∈ text.toList, c.toNat < 128)
    (bound : environment.bindings.lookup name = some (Text.encodeUtf8 text)) :
    environment.text? name = some text := by
  have decoded : Text.decodeUtf8? (Text.encodeUtf8 text) = some text.toList := by
    rw [← @String.ofList_toList text, Text.encodeUtf8_ascii ascii,
      Text.decodeUtf8?_ascii ascii, String.ofList_toList]
  rw [text?, read, bound]
  dsimp only
  rw [decoded]
  dsimp only [Except.toOption]
  rw [String.ofList_toList]

/-- An environment with these passwords for database and cache. -/
def ofPasswords (database cache : String) : Environment :=
  ⟨[("DB_USER", "shortener"), ("DB_PASSWORD", database), ("DB_NAME", "links"),
    ("REDIS_HOST", "cache"), ("REDIS_PASSWORD", cache)].map fun (name, text) =>
      (name, Text.encodeUtf8 text)⟩

theorem setsParts_ofPasswords {database cache : String}
    (ascii : ∀ c ∈ database.toList, c.toNat < 128) (cacheAscii : ∀ c ∈ cache.toList, c.toNat < 128)
    (locked : cache ≠ "") :
    (ofPasswords database cache).SetsParts "shortener" database cache where
  databaseUnset := rfl
  cacheUnset := rfl
  userSet := text?_of_lookup (by simp) rfl
  passwordSet := text?_of_lookup ascii rfl
  nameSet := ⟨"links", text?_of_lookup (by simp) rfl⟩
  hostSet := ⟨"cache", text?_of_lookup (by simp) rfl⟩
  cachePasswordSet := text?_of_lookup cacheAscii rfl
  cacheLocked := locked

theorem sharesAllButPasswords_ofPasswords (database cache otherDatabase otherCache : String) :
    (ofPasswords database cache).SharesAllButPasswords (ofPasswords otherDatabase otherCache) := by
  intro name notDatabase notCache
  have database : (name == "DB_PASSWORD") = false := beq_eq_false_iff_ne.mpr notDatabase
  have cache : (name == "REDIS_PASSWORD") = false := beq_eq_false_iff_ne.mpr notCache
  simp [read, ofPasswords, List.lookup_cons, database, cache]

end Environment

namespace Settings

/-- Passwords without colon and at sign do not show. -/
theorem summary_eq_secret :
    ∃ settings theirs,
      ofEnvironment (.ofPasswords "swordfish" "token") = .ok settings ∧
      ofEnvironment (.ofPasswords "rosebud" "key/2") = .ok theirs ∧
      theirs.validate = settings.validate ∧ theirs.summary = settings.summary := by
  rcases summary_eq_iff_exposed
      (Environment.sharesAllButPasswords_ofPasswords "swordfish" "token" "rosebud" "key/2")
      (Environment.setsParts_ofPasswords (by simp) (by simp) (by decide))
      (Environment.setsParts_ofPasswords (by simp) (by simp) (by decide)) with
    ⟨settings, theirs, made, otherMade, valid, same⟩
  exact ⟨settings, theirs, made, otherMade, valid,
    same.mpr ⟨.inr ⟨by decide, by decide⟩, by decide⟩⟩

/-- What follows an at sign in a password does show. -/
theorem summary_shows_password :
    ¬ ∀ first second user password other cachePassword otherCachePassword,
      Environment.SharesAllButPasswords first second →
      Environment.SetsParts first user password cachePassword →
      Environment.SetsParts second user other otherCachePassword →
      ∃ settings theirs, ofEnvironment first = .ok settings ∧ ofEnvironment second = .ok theirs ∧
        theirs.validate = settings.validate ∧ theirs.summary = settings.summary := by
  intro hidden
  have shares := Environment.sharesAllButPasswords_ofPasswords "p@ssword" "token" "p@ssage" "token"
  have parts : (Environment.ofPasswords "p@ssword" "token").SetsParts "shortener" "p@ssword"
      "token" :=
    Environment.setsParts_ofPasswords (by simp) (by simp) (by decide)
  have otherParts : (Environment.ofPasswords "p@ssage" "token").SetsParts "shortener" "p@ssage"
      "token" :=
    Environment.setsParts_ofPasswords (by simp) (by simp) (by decide)
  rcases hidden _ _ _ _ _ _ _ shares parts otherParts with
    ⟨settings, theirs, made, otherMade, -, same⟩
  rcases ofEnvironment_of_parts shares parts otherParts with
    ⟨ownSettings, otherSettings, rest, cacheRest, ownMade, theirsMade, -, shown⟩
  cases made.symm.trans ownMade
  cases otherMade.symm.trans theirsMade
  have masks := (maskPassword_eq_iff (by decide) _ _ _).mp (shown.mp same).1
  exact absurd masks (by decide)

end Settings

end LinkShortener
