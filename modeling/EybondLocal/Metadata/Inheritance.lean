import EybondLocal.Library.JsonValue
import EybondLocal.Library.OrderedDict
import EybondLocal.Library.ParentWalk
import EybondLocal.Library.PythonText

/-!
Profiles and register schemas that extend one another (`_load_raw_profile` in
`metadata/profile_loader.py`, `_load_raw_schema` in `metadata/register_schema_loader.py`). The two
loaders differ in an alias table and in the prefix that names a built-in file.
-/
namespace Metadata
open JsonValue OrderedDict ParentWalk PythonObject PythonText Relation StripText

abbrev FilePath := List String

def isAbsolute (text : String) : Bool := startsWith text "/"

def FilePath.enter (path : FilePath) (part : String) : FilePath :=
  if part = "" ∨ part = "." then path else if part = ".." then path.dropLast else path ++ [part]

def FilePath.join (base : FilePath) (text : String) : FilePath :=
  (splitText '/' text).foldl FilePath.enter (if isAbsolute text then [] else base)

def FilePath.within (path root : FilePath) : Bool := root.isPrefixOf path

def FilePath.parent (path : FilePath) : FilePath := path.dropLast

abbrev Raw := Dict String Json

inductive FileContent where
  | mapping (raw : Raw)
  | broken (error : PyError)

structure Roots where
  external : List FilePath
  builtin : FilePath
  apart : ∀ root ∈ external, ∀ path : FilePath, path.within root = true →
    path.within builtin = false

structure Store extends Roots where
  files : Dict FilePath FileContent

def Store.isFile (store : Store) (path : FilePath) : Bool := (store.files.get? path).isSome

inductive LoadError where
  | recursion
  | notFound (message : String)
  | missing (path : FilePath)
  | python (error : PyError)

structure Loader where
  /-- The prefix that names a built-in file, if the loader knows one. -/
  builtinPrefix : Option String
  aliasOf : String → Option String
  notFound : String
  mergeRaw : Raw → Raw → Except PyError Raw

section
variable (loader : Loader) (store : Store)

def Loader.builtinName (name : String) : Option String :=
  loader.builtinPrefix.bind fun start =>
    if startsWith name start then some (String.ofList (name.toList.drop start.length)) else none

/-- `_profile_search_dirs`, `_register_schema_search_dirs`. -/
def searchDirs : List FilePath := store.external ++ [store.builtin]

def searchFile (name : String) : List FilePath → Option FilePath
  | [] => none
  | root :: rest =>
    let candidate := root.join name
    if candidate.within root && store.isFile candidate then some candidate else searchFile name rest

/-- `_resolve_profile_path`, `_resolve_schema_path`, with the text of a `FileNotFoundError`. -/
def resolvePath (name : String) : Except String FilePath :=
  if isAbsolute name then .ok (FilePath.join [] name)
  else
    match loader.builtinName name with
    | some own => .ok (store.builtin.join own)
    | none =>
      match searchFile store name (searchDirs store), loader.aliasOf name with
      | some path, _ => .ok path
      | none, some real => .ok (store.builtin.join real)
      | none, none => .error (loader.notFound ++ ":" ++ name)

def builtinCounterpart (path : FilePath) (parentRef : String) : List FilePath → Option FilePath
  | [] => none
  | root :: rest =>
    if path.within root then
      let builtinFile := store.builtin ++ path.drop root.length
      let candidate := builtinFile.parent.join parentRef
      if candidate.within store.builtin && store.isFile candidate then some candidate
      else builtinCounterpart path parentRef rest
    else builtinCounterpart path parentRef rest

/-- `_resolve_relative_parent_profile_path`, `_resolve_relative_parent_schema_path`. -/
def resolveRelativeParent (path : FilePath) (parentRef : String) : FilePath :=
  let candidate := path.parent.join parentRef
  if store.isFile candidate then candidate
  else (builtinCounterpart store path parentRef store.external).getD candidate

def parentPath (path : FilePath) (parentRef : String) : Except String FilePath :=
  if startsWith parentRef "./" ∨ startsWith parentRef "../" then
    .ok (resolveRelativeParent store path parentRef)
  else resolvePath loader store parentRef

def extendsText (raw : Raw) : Option String :=
  (raw.get? "extends").bind fun value => if value.truthy then some value.render else none

structure Loaded where
  result : Except LoadError Raw
  visited : List FilePath

def loadRaw (cache : FilePath → Option Raw) : Nat → FilePath → Loaded
  | 0, path =>
    match cache path with
    | some raw => ⟨.ok raw, []⟩
    | none => ⟨.error .recursion, []⟩
  | depth + 1, path =>
    match cache path with
    | some raw => ⟨.ok raw, []⟩
    | none =>
      match store.files.get? path with
      | none => ⟨.error (.missing path), [path]⟩
      | some (.broken error) => ⟨.error (.python error), [path]⟩
      | some (.mapping raw) =>
        match extendsText raw with
        | none => ⟨.ok (raw.erase "extends"), [path]⟩
        | some parentRef =>
          match parentPath loader store path parentRef with
          | .error message => ⟨.error (.notFound message), [path]⟩
          | .ok up =>
            let loaded := loadRaw cache depth up
            ⟨match loaded.result with
              | .error error => .error error
              | .ok parentRaw =>
                (loader.mergeRaw parentRaw (raw.erase "extends")).mapError .python,
              path :: loaded.visited⟩

end

def builtinProfileAliases (name : String) : Option String :=
  if name = "smg_modbus.json" then some "modbus_smg/default.json" else none

def BUILTIN_SCHEMA_PREFIX : String := "builtin:"

def profileLoader (mergeRawProfile : Raw → Raw → Except PyError Raw) : Loader where
  builtinPrefix := none
  aliasOf := builtinProfileAliases
  notFound := "profile_not_found"
  mergeRaw := mergeRawProfile

def schemaLoader (mergeRawSchema : Raw → Raw → Except PyError Raw) : Loader where
  builtinPrefix := some BUILTIN_SCHEMA_PREFIX
  aliasOf _ := none
  notFound := "register_schema_not_found"
  mergeRaw := mergeRawSchema

def loadRawProfile (mergeRawProfile : Raw → Raw → Except PyError Raw) (store : Store)
    (cache : FilePath → Option Raw) (depth : Nat) (path : FilePath) : Loaded :=
  loadRaw (profileLoader mergeRawProfile) store cache depth path

def loadRawSchema (mergeRawSchema : Raw → Raw → Except PyError Raw) (store : Store)
    (cache : FilePath → Option Raw) (depth : Nat) (path : FilePath) : Loaded :=
  loadRaw (schemaLoader mergeRawSchema) store cache depth path

section
variable (loader : Loader) (store : Store)

/-- The built-in file of a name (`builtin_profile_path`, `builtin_register_schema_path`). -/
def builtinPath (name : String) : FilePath :=
  store.builtin.join ((loader.aliasOf name).getD name)

def NamesBuiltin (name reference : String) : Prop :=
  reference = name ∨ ∃ start ∈ loader.builtinPrefix, reference = start ++ name

structure OwnNameOverlay (path : FilePath) (name reference : String) : Prop where
  relative : isAbsolute name = false ∧ startsWith name "./" = false ∧ startsWith name "../" = false
  unprefixed : loader.builtinName name = none
  placed : ∃ root ∈ store.external, root.join name = path ∧ path.within root = true
  file : ∃ raw, store.files.get? path = some (.mapping raw) ∧ extendsText raw = some reference
  builtin : (builtinPath loader store name).within store.builtin = true ∧
    store.isFile (builtinPath loader store name) = true
  names : NamesBuiltin loader name reference

/-- Every load ends after reading each file at most once, by the interpreter's recursion limit only
    where that is too low for the files there are; and overlays of their own name find the built-in
    file. -/
structure Sound (load : Nat → FilePath → Loaded) : Prop where
  once : ∀ depth path, (load depth path).visited.Nodup
  ends : ∀ depth path, store.files.items.length < depth →
    (load depth path).result ≠ .error .recursion
  own_name : ∀ path name reference, OwnNameOverlay loader store path name reference →
    parentPath loader store path reference = .ok (builtinPath loader store name)

def parentOf (path : FilePath) : Option FilePath :=
  match store.files.get? path with
  | some (.mapping raw) =>
    (extendsText raw).bind fun parentRef => (parentPath loader store path parentRef).toOption
  | _ => none

def nextPath (cache : FilePath → Option Raw) (path : FilePath) : Option FilePath :=
  (parentOf loader store path).bind fun up => if (cache up).isSome then none else some up

def NoFileLoop (cache : FilePath → Option Raw) : Prop :=
  ∀ path, ¬ TransGen (IsParent (nextPath loader store cache)) path path

def NoBareOwnName : Prop :=
  ∀ path name, ¬ OwnNameOverlay loader store path name name

end

section
variable {loader : Loader} {store : Store} {cache : FilePath → Option Raw}

theorem nextPath_uncached {path up : FilePath}
    (next : nextPath loader store cache path = some up) : cache up = none := by
  obtain ⟨found, _, is⟩ := Option.bind_eq_some_iff.mp next
  split_ifs at is with cached
  cases is
  exact Option.not_isSome_iff_eq_none.mp cached

theorem loadRaw_cached {path : FilePath} {raw : Raw} (cached : cache path = some raw)
    (depth : Nat) : loadRaw loader store cache depth path = ⟨.ok raw, []⟩ := by
  cases depth <;> rw [loadRaw, cached]

inductive Level (loader : Loader) (store : Store) (cache : FilePath → Option Raw) (depth : Nat)
    (path : FilePath) (loaded : Loaded) : Prop where
  | last (root : parentOf loader store path = none) (visited : loaded.visited = [path])
      (finished : loaded.result ≠ .error .recursion)
  | parent (up : FilePath) (is : parentOf loader store path = some up)
      (present : path ∈ store.files.items.map Prod.fst)
      (visited : loaded.visited = path :: (loadRaw loader store cache depth up).visited)
      (passed : loaded.result = .error .recursion →
        (loadRaw loader store cache depth up).result = .error .recursion)

theorem loadRaw_level {path : FilePath} (uncached : cache path = none) (depth : Nat) :
    Level loader store cache depth path (loadRaw loader store cache (depth + 1) path) := by
  rw [loadRaw, uncached]
  cases found : store.files.get? path with
  | none =>
    refine .last ?_ rfl nofun
    rw [parentOf, found]
  | some content =>
    have present : path ∈ store.files.items.map Prod.fst :=
      List.mem_map.mpr ⟨(path, content), (Dict.get?_eq_some_iff _ _ _).mp found, rfl⟩
    cases content with
    | broken error =>
      refine .last ?_ rfl nofun
      rw [parentOf, found]
    | mapping raw =>
      dsimp only
      cases named : extendsText raw with
      | none =>
        refine .last ?_ rfl nofun
        simp only [parentOf, found, named, Option.bind_none]
      | some parentRef =>
        dsimp only
        cases resolved : parentPath loader store path parentRef with
        | error message =>
          refine .last ?_ rfl nofun
          simp only [parentOf, found, named, Option.bind_some, resolved, Except.toOption]
        | ok up =>
          refine .parent up ?_ present rfl fun ended => ?_
          · simp only [parentOf, found, named, Option.bind_some, resolved, Except.toOption]
          · dsimp only at ended
            cases parent : (loadRaw loader store cache depth up).result with
            | error error =>
              rw [parent] at ended
              exact ended
            | ok parentRaw =>
              -- Merging raises, if anything, an error of its own.
              rw [parent] at ended
              dsimp only at ended
              cases merged : loader.mergeRaw parentRaw (raw.erase "extends") with
              | error error =>
                rw [merged] at ended
                cases ended
              | ok whole =>
                rw [merged] at ended
                cases ended

theorem visited_eq_walk {path : FilePath} (uncached : cache path = none) (depth : Nat) :
    (loadRaw loader store cache depth path).visited =
      walk (nextPath loader store cache) depth path := by
  induction depth generalizing path with
  | zero =>
    rw [loadRaw, uncached]
    rfl
  | succ depth ih =>
    cases (loadRaw_level uncached depth : Level loader store cache depth path _) with
    | last root visited _ =>
      rw [visited, walk_of_root (by rw [nextPath, root, Option.bind_none])]
    | parent up is _ visited _ =>
      rw [visited]
      cases cached : cache up with
      | none =>
        rw [ih cached, walk_of_parent]
        rw [nextPath, is, Option.bind_some, cached, Option.isSome_none, if_neg Bool.false_ne_true]
      | some raw =>
        rw [loadRaw_cached cached, walk_of_root]
        rw [nextPath, is, Option.bind_some, cached, Option.isSome_some, if_pos rfl]

/-- A load that the recursion limit ended has read files with a parent only. -/
theorem walk_of_recursion {path : FilePath} (uncached : cache path = none) {depth : Nat}
    (ended : (loadRaw loader store cache depth path).result = .error .recursion) :
    ∀ file ∈ walk (nextPath loader store cache) depth path,
      nextPath loader store cache file ≠ none ∧ file ∈ store.files.items.map Prod.fst := by
  induction depth generalizing path with
  | zero => exact fun file mem => absurd mem List.not_mem_nil
  | succ depth ih =>
    cases (loadRaw_level uncached depth : Level loader store cache depth path _) with
    | last _ _ finished => exact absurd ended finished
    | parent up is present _ passed =>
      have later := passed ended
      cases cached : cache up with
      | some raw =>
        rw [loadRaw_cached cached] at later
        cases later
      | none =>
        have next : nextPath loader store cache path = some up := by
          rw [nextPath, is, Option.bind_some, cached, Option.isSome_none,
            if_neg Bool.false_ne_true]
        rw [walk_of_parent next]
        refine List.forall_mem_cons.mpr ⟨⟨?_, present⟩, ih cached later⟩
        rw [next]
        exact Option.some_ne_none up

theorem uncached_of_loop {path : FilePath}
    (loop : TransGen (IsParent (nextPath loader store cache)) path path) : cache path = none := by
  obtain ⟨_, _, last⟩ := TransGen.tail'_iff.mp loop
  exact nextPath_uncached last

/-- Every load reads each file at most once exactly when no file is its own ancestor. -/
theorem once_iff : (∀ depth path, (loadRaw loader store cache depth path).visited.Nodup) ↔
    NoFileLoop loader store cache := by
  constructor
  · intro once path loop
    have uncached := uncached_of_loop loop
    have noLoop : NoLoop (nextPath loader store cache) path := noLoop_of_nodup fun depth => by
      rw [← visited_eq_walk uncached]
      exact once depth path
    exact noLoop path ReflTransGen.refl loop
  · intro noFileLoop depth path
    cases cached : cache path with
    | some raw =>
      rw [loadRaw_cached cached]
      exact List.nodup_nil
    | none =>
      rw [visited_eq_walk cached]
      exact nodup_of_noLoop (fun file _ => noFileLoop file) depth

/-- Without a loop, a recursion limit above the number of files is never reached. -/
theorem ends_of_noFileLoop (noFileLoop : NoFileLoop loader store cache) (depth : Nat)
    (path : FilePath) (enough : store.files.items.length < depth) :
    (loadRaw loader store cache depth path).result ≠ .error .recursion := by
  intro ended
  cases cached : cache path with
  | some raw =>
    rw [loadRaw_cached cached] at ended
    cases ended
  | none =>
    have bound := length_of_cut (walk_of_recursion cached ended) fun file _ => noFileLoop file
    rw [List.length_map] at bound
    omega

theorem searchFile_external {name : String} {roots : List FilePath} (rest : List FilePath)
    {root : FilePath} (mem : root ∈ roots) (inside : (root.join name).within root = true)
    (file : store.isFile (root.join name) = true) :
    ∃ other ∈ roots, ∃ path : FilePath, path.within other = true ∧
      searchFile store name (roots ++ rest) = some path := by
  induction roots with
  | nil => exact absurd mem List.not_mem_nil
  | cons first others ih =>
    rw [List.cons_append, searchFile]
    by_cases here : ((first.join name).within first && store.isFile (first.join name)) = true
    · exact ⟨first, List.mem_cons_self, first.join name, (Bool.and_eq_true_iff.mp here).1,
        if_pos here⟩
    · have different : root ≠ first := by
        rintro rfl
        exact here (Bool.and_eq_true_iff.mpr ⟨inside, file⟩)
      obtain ⟨other, member, path, within, found⟩ :=
        ih (List.mem_of_ne_of_mem different mem)
      exact ⟨other, List.mem_cons_of_mem first member, path, within, (if_neg here).trans found⟩

/-- The bare name of an overlay leads to an external file, if only to the overlay itself. -/
theorem bareName_external {path : FilePath} {name reference : String}
    (overlay : OwnNameOverlay loader store path name reference) :
    ∃ root ∈ store.external, ∃ found : FilePath, found.within root = true ∧
      parentPath loader store path name = .ok found := by
  obtain ⟨absolute, here, above⟩ := overlay.relative
  obtain ⟨root, mem, joined, inside⟩ := overlay.placed
  obtain ⟨raw, file, _⟩ := overlay.file
  have present : store.isFile (root.join name) = true := by
    rw [joined, Store.isFile, file, Option.isSome_some]
  obtain ⟨other, member, found, within, search⟩ :=
    searchFile_external [store.builtin] mem (joined ▸ inside) present
  refine ⟨other, member, found, within, ?_⟩
  rw [parentPath, here, above]
  simp only [Bool.false_eq_true, or_self, if_false]
  rw [resolvePath, absolute, if_neg Bool.false_ne_true, overlay.unprefixed, searchDirs, search]

theorem bareName_fails {path : FilePath} {name : String}
    (overlay : OwnNameOverlay loader store path name name) :
    parentPath loader store path name ≠ .ok (builtinPath loader store name) := by
  intro resolved
  obtain ⟨root, mem, found, within, is⟩ := bareName_external overlay
  rw [is] at resolved
  cases resolved
  have outside := store.apart root mem _ within
  rw [overlay.builtin.1] at outside
  cases outside

end

theorem builtinName_prefixed (mergeRawSchema : Raw → Raw → Except PyError Raw) (name : String) :
    (schemaLoader mergeRawSchema).builtinName (BUILTIN_SCHEMA_PREFIX ++ name) = some name := by
  have begins : startsWith (BUILTIN_SCHEMA_PREFIX ++ name) BUILTIN_SCHEMA_PREFIX = true :=
    (startsWith_iff _ _).mpr ⟨name.toList, String.toList_append.symm⟩
  rw [Loader.builtinName, schemaLoader, Option.bind_some, if_pos begins, String.toList_append,
    ← String.length_toList, List.drop_left, String.ofList_toList]

theorem prefixed_resolves (mergeRawSchema : Raw → Raw → Except PyError Raw) (store : Store)
    (path : FilePath) (name : String) :
    parentPath (schemaLoader mergeRawSchema) store path (BUILTIN_SCHEMA_PREFIX ++ name) =
      .ok (builtinPath (schemaLoader mergeRawSchema) store name) := by
  have text : (BUILTIN_SCHEMA_PREFIX ++ name).toList = 'b' :: ("uiltin:".toList ++ name.toList) :=
    String.toList_append
  have absolute : isAbsolute (BUILTIN_SCHEMA_PREFIX ++ name) = false := by
    rw [isAbsolute, startsWith, text]
    rfl
  have here : startsWith (BUILTIN_SCHEMA_PREFIX ++ name) "./" = false := by
    rw [startsWith, text]
    rfl
  have above : startsWith (BUILTIN_SCHEMA_PREFIX ++ name) "../" = false := by
    rw [startsWith, text]
    rfl
  rw [parentPath, here, above]
  simp only [Bool.false_eq_true, or_self, if_false]
  rw [resolvePath, absolute, if_neg Bool.false_ne_true, builtinName_prefixed]
  rfl

theorem sound_iff_of {loader : Loader} {store : Store} {cache : FilePath → Option Raw}
    (prefixed : ∀ path name reference, OwnNameOverlay loader store path name reference →
      reference ≠ name →
        parentPath loader store path reference = .ok (builtinPath loader store name)) :
    Sound loader store (loadRaw loader store cache) ↔
      NoFileLoop loader store cache ∧ NoBareOwnName loader store := by
  constructor
  · intro sound
    refine ⟨once_iff.mp sound.once, fun path name overlay => ?_⟩
    exact bareName_fails overlay (sound.own_name path name name overlay)
  · rintro ⟨noFileLoop, noBare⟩
    refine ⟨once_iff.mpr noFileLoop, ends_of_noFileLoop noFileLoop, ?_⟩
    intro path name reference overlay
    by_cases bare : reference = name
    · subst bare
      exact absurd overlay (noBare path reference)
    · exact prefixed path name reference overlay bare

/-- Both loaders end after reading each file at most once, and take overlays of their own name to
    the built-in file, exactly when no file is its own ancestor and no overlay gives the name of its
    built-in file bare. -/
theorem loaders_sound_iff (mergeRawProfile mergeRawSchema : Raw → Raw → Except PyError Raw)
    (store : Store) (cache : FilePath → Option Raw) :
    (Sound (profileLoader mergeRawProfile) store (loadRawProfile mergeRawProfile store cache) ↔
      NoFileLoop (profileLoader mergeRawProfile) store cache ∧
        NoBareOwnName (profileLoader mergeRawProfile) store) ∧
    (Sound (schemaLoader mergeRawSchema) store (loadRawSchema mergeRawSchema store cache) ↔
      NoFileLoop (schemaLoader mergeRawSchema) store cache ∧
        NoBareOwnName (schemaLoader mergeRawSchema) store) := by
  constructor
  · refine sound_iff_of fun path name reference overlay other => ?_
    rcases overlay.names with bare | ⟨start, known, _⟩
    · exact absurd bare other
    · cases known
  · refine sound_iff_of fun path name reference overlay other => ?_
    rcases overlay.names with bare | ⟨start, known, is⟩
    · exact absurd bare other
    · cases known
      rw [is]
      exact prefixed_resolves mergeRawSchema store path name

def ownNameStore : Store where
  external := [["config", "profiles"]]
  builtin := ["package", "profiles"]
  apart := by
    intro root mem path inside
    rw [List.mem_singleton.mp mem] at inside
    cases path with
    | nil => cases inside
    | cons first rest =>
      have same : first = "config" := (eq_of_beq (Bool.and_eq_true_iff.mp inside).1).symm
      rw [same]
      rfl
  files := (Dict.empty.set ["config", "profiles", "a.json"]
    (.mapping (Dict.empty.set "extends" (.str "a.json")))).set ["package", "profiles", "a.json"]
      (.mapping Dict.empty)

theorem ownName_rereads (mergeRawProfile : Raw → Raw → Except PyError Raw) :
    (loadRawProfile mergeRawProfile ownNameStore (fun _ => none) 2
      ["config", "profiles", "a.json"]).visited =
        [["config", "profiles", "a.json"], ["config", "profiles", "a.json"]] := by
  rfl

theorem ownName_unsound : ¬ ∀ mergeRawProfile mergeRawSchema store cache,
    Sound (profileLoader mergeRawProfile) store (loadRawProfile mergeRawProfile store cache) ∧
      Sound (schemaLoader mergeRawSchema) store (loadRawSchema mergeRawSchema store cache) := by
  intro sound
  obtain ⟨profiles, _⟩ :=
    sound (fun _ raw => .ok raw) (fun _ raw => .ok raw) ownNameStore fun _ => none
  have once := profiles.once 2 ["config", "profiles", "a.json"]
  rw [ownName_rereads] at once
  exact (List.nodup_cons.mp once).1 (List.mem_singleton_self _)

end Metadata
