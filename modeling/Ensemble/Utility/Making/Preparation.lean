import Ensemble.Utility.Making.Rule
import Ensemble.Utility.Making.Update

/-!
# Ensemble.Utility.Making.Preparation

**Between reading and making**: texts that are expanded when all has been read, what special targets say
of others, and the makefiles that are made themselves before anything else is.
-/

/-! ### What every makefile finds

**What every makefile finds**: variables for the usual tools, rules by which files with some suffixes
are made from files with others, and rules of patterns.
-/

namespace Ensemble.Utility.Making

/-- Variables whose values are expanded where they are asked for. -/
def usualValues : List (String × String) :=
  [(".INCLUDE_DIRS", "/usr/local/include /usr/include /usr/include"),
    (".LIBPATTERNS", "lib%.so lib%.a"), ("AR", "ar"), ("ARFLAGS", "rv"), ("AS", "as"),
    ("CC", "cc"), ("CHECKOUT,v", "+$(if $(wildcard $@),,$(CO) $(COFLAGS) $< $@)"), ("CO", "co"),
    ("COFLAGS", ""), ("COMPILE.C", "$(COMPILE.cc)"),
    ("COMPILE.F", "$(FC) $(FFLAGS) $(CPPFLAGS) $(TARGET_ARCH) -c"),
    ("COMPILE.S", "$(CC) $(ASFLAGS) $(CPPFLAGS) $(TARGET_MACH) -c"),
    ("COMPILE.c", "$(CC) $(CFLAGS) $(CPPFLAGS) $(TARGET_ARCH) -c"),
    ("COMPILE.cc", "$(CXX) $(CXXFLAGS) $(CPPFLAGS) $(TARGET_ARCH) -c"),
    ("COMPILE.cpp", "$(COMPILE.cc)"),
    ("COMPILE.def", "$(M2C) $(M2FLAGS) $(DEFFLAGS) $(TARGET_ARCH)"),
    ("COMPILE.f", "$(FC) $(FFLAGS) $(TARGET_ARCH) -c"),
    ("COMPILE.m", "$(OBJC) $(OBJCFLAGS) $(CPPFLAGS) $(TARGET_ARCH) -c"),
    ("COMPILE.mod", "$(M2C) $(M2FLAGS) $(MODFLAGS) $(TARGET_ARCH)"),
    ("COMPILE.p", "$(PC) $(PFLAGS) $(CPPFLAGS) $(TARGET_ARCH) -c"),
    ("COMPILE.r", "$(FC) $(FFLAGS) $(RFLAGS) $(TARGET_ARCH) -c"),
    ("COMPILE.s", "$(AS) $(ASFLAGS) $(TARGET_MACH)"), ("CPP", "$(CC) -E"), ("CTANGLE", "ctangle"),
    ("CWEAVE", "cweave"), ("CXX", "g++"), ("F77", "$(FC)"), ("F77FLAGS", "$(FFLAGS)"),
    ("FC", "f77"), ("GET", "get"), ("LD", "ld"), ("LEX", "lex"), ("LEX.l", "$(LEX) $(LFLAGS) -t"),
    ("LEX.m", "$(LEX) $(LFLAGS) -t"), ("LINK.C", "$(LINK.cc)"),
    ("LINK.F", "$(FC) $(FFLAGS) $(CPPFLAGS) $(LDFLAGS) $(TARGET_ARCH)"),
    ("LINK.S", "$(CC) $(ASFLAGS) $(CPPFLAGS) $(LDFLAGS) $(TARGET_MACH)"),
    ("LINK.c", "$(CC) $(CFLAGS) $(CPPFLAGS) $(LDFLAGS) $(TARGET_ARCH)"),
    ("LINK.cc", "$(CXX) $(CXXFLAGS) $(CPPFLAGS) $(LDFLAGS) $(TARGET_ARCH)"),
    ("LINK.cpp", "$(LINK.cc)"), ("LINK.f", "$(FC) $(FFLAGS) $(LDFLAGS) $(TARGET_ARCH)"),
    ("LINK.m", "$(OBJC) $(OBJCFLAGS) $(CPPFLAGS) $(LDFLAGS) $(TARGET_ARCH)"),
    ("LINK.o", "$(CC) $(LDFLAGS) $(TARGET_ARCH)"),
    ("LINK.p", "$(PC) $(PFLAGS) $(CPPFLAGS) $(LDFLAGS) $(TARGET_ARCH)"),
    ("LINK.r", "$(FC) $(FFLAGS) $(RFLAGS) $(LDFLAGS) $(TARGET_ARCH)"),
    ("LINK.s", "$(CC) $(ASFLAGS) $(LDFLAGS) $(TARGET_MACH)"), ("LINT", "lint"),
    ("LINT.c", "$(LINT) $(LINTFLAGS) $(CPPFLAGS) $(TARGET_ARCH)"), ("M2C", "m2c"),
    ("MAKE", "$(MAKE_COMMAND)"), ("MAKEINFO", "makeinfo"), ("OBJC", "cc"),
    ("OUTPUT_OPTION", "-o $@"), ("PC", "pc"),
    ("PREPROCESS.F", "$(FC) $(FFLAGS) $(CPPFLAGS) $(TARGET_ARCH) -F"),
    ("PREPROCESS.S", "$(CC) -E $(CPPFLAGS)"),
    ("PREPROCESS.r", "$(FC) $(FFLAGS) $(RFLAGS) $(TARGET_ARCH) -F"), ("RM", "rm -f"),
    ("TANGLE", "tangle"), ("TEX", "tex"), ("TEXI2DVI", "texi2dvi"), ("WEAVE", "weave"),
    ("YACC", "yacc"), ("YACC.m", "$(YACC) $(YFLAGS)"), ("YACC.y", "$(YACC) $(YFLAGS)")]

/-- Variables whose values are taken as they are. -/
def usualTexts : List (String × String) :=
  [(".FEATURES", "target-specific order-only second-expansion else-if shortest-stem undefine oneshell nocomment grouped-target extra-prereqs archives jobserver output-sync check-symlink load"),
    (".LOADED", ""), (".RECIPEPREFIX", ""), (".VARIABLES", ""), (".SHELLFLAGS", "-c"), ("MAKE_HOST", "x86_64-pc-linux-gnu"),
    ("MAKE_VERSION", "4.3"), ("SHELL", "/bin/sh")]

/-- The parts of variables for the names of files: directories and what is in them. -/
def partValues : List (String × String) :=
  ["@", "%", "*", "<", "?", "^", "+"].flatMap fun name =>
    [(name ++ "D", "$(patsubst %/,%,$(dir $" ++ name ++ "))"), (name ++ "F", "$(notdir $" ++ name ++ ")")]

/-- The known suffixes. -/
def usualSuffixes : List String :=
  [".out", ".a", ".ln", ".o", ".c", ".cc", ".C", ".cpp", ".p", ".f", ".F", ".m", ".r", ".y", ".l",
    ".ym", ".yl", ".s", ".S", ".mod", ".sym", ".def", ".h", ".info", ".dvi", ".tex", ".texinfo",
    ".texi", ".txinfo", ".w", ".ch", ".web", ".sh", ".elc", ".el"]

/-- How files are made whose suffixes are the second of two, or without one, from files with the
first. -/
def suffixRecipes : List (String × List String) :=
  [(".o", ["$(LINK.o) $^ $(LOADLIBES) $(LDLIBS) -o $@"]),
    (".c", ["$(LINK.c) $^ $(LOADLIBES) $(LDLIBS) -o $@"]),
    (".cc", ["$(LINK.cc) $^ $(LOADLIBES) $(LDLIBS) -o $@"]),
    (".C", ["$(LINK.C) $^ $(LOADLIBES) $(LDLIBS) -o $@"]),
    (".cpp", ["$(LINK.cpp) $^ $(LOADLIBES) $(LDLIBS) -o $@"]),
    (".p", ["$(LINK.p) $^ $(LOADLIBES) $(LDLIBS) -o $@"]),
    (".f", ["$(LINK.f) $^ $(LOADLIBES) $(LDLIBS) -o $@"]),
    (".F", ["$(LINK.F) $^ $(LOADLIBES) $(LDLIBS) -o $@"]),
    (".m", ["$(LINK.m) $^ $(LOADLIBES) $(LDLIBS) -o $@"]),
    (".r", ["$(LINK.r) $^ $(LOADLIBES) $(LDLIBS) -o $@"]),
    (".s", ["$(LINK.s) $^ $(LOADLIBES) $(LDLIBS) -o $@"]),
    (".S", ["$(LINK.S) $^ $(LOADLIBES) $(LDLIBS) -o $@"]),
    (".mod", ["$(COMPILE.mod) -o $@ -e $@ $^"]), (".sh", ["cat $< >$@ ", " chmod a+x $@"]),
    (".c.o", ["$(COMPILE.c) $(OUTPUT_OPTION) $<"]),
    (".cc.o", ["$(COMPILE.cc) $(OUTPUT_OPTION) $<"]),
    (".C.o", ["$(COMPILE.C) $(OUTPUT_OPTION) $<"]),
    (".cpp.o", ["$(COMPILE.cpp) $(OUTPUT_OPTION) $<"]),
    (".p.o", ["$(COMPILE.p) $(OUTPUT_OPTION) $<"]), (".F.o", ["$(COMPILE.F) $(OUTPUT_OPTION) $<"]),
    (".f.o", ["$(COMPILE.f) $(OUTPUT_OPTION) $<"]), (".m.o", ["$(COMPILE.m) $(OUTPUT_OPTION) $<"]),
    (".r.o", ["$(COMPILE.r) $(OUTPUT_OPTION) $<"]), (".s.o", ["$(COMPILE.s) -o $@ $<"]),
    (".S.o", ["$(COMPILE.S) -o $@ $<"]), (".mod.o", ["$(COMPILE.mod) -o $@ $<"]),
    (".F.f", ["$(PREPROCESS.F) $(OUTPUT_OPTION) $<"]),
    (".r.f", ["$(PREPROCESS.r) $(OUTPUT_OPTION) $<"]),
    (".y.ln", ["$(YACC.y) $< ", " $(LINT.c) -C$* y.tab.c ", " $(RM) y.tab.c"]),
    (".y.c", ["$(YACC.y) $< ", " mv -f y.tab.c $@"]),
    (".l.ln", ["@$(RM) $*.c", " $(LEX.l) $< > $*.c", "$(LINT.c) -i $*.c -o $@", " $(RM) $*.c"]),
    (".l.c", ["@$(RM) $@ ", " $(LEX.l) $< > $@"]),
    (".l.r", ["$(LEX.l) $< > $@ ", " mv -f lex.yy.r $@"]),
    (".ym.m", ["$(YACC.m) $< ", " mv -f y.tab.c $@"]),
    (".lm.m", ["@$(RM) $@ ", " $(LEX.m) $< > $@"]), (".S.s", ["$(PREPROCESS.S) $< > $@"]),
    (".c.ln", ["$(LINT.c) -C$* $<"]), (".def.sym", ["$(COMPILE.def) -o $@ $<"]),
    (".tex.dvi", ["$(TEX) $<"]), (".texinfo.info", ["$(MAKEINFO) $(MAKEINFO_FLAGS) $< -o $@"]),
    (".texinfo.dvi", ["$(TEXI2DVI) $(TEXI2DVI_FLAGS) $<"]),
    (".texi.info", ["$(MAKEINFO) $(MAKEINFO_FLAGS) $< -o $@"]),
    (".texi.dvi", ["$(TEXI2DVI) $(TEXI2DVI_FLAGS) $<"]),
    (".txinfo.info", ["$(MAKEINFO) $(MAKEINFO_FLAGS) $< -o $@"]),
    (".txinfo.dvi", ["$(TEXI2DVI) $(TEXI2DVI_FLAGS) $<"]), (".w.c", ["$(CTANGLE) $< - $@"]),
    (".w.tex", ["$(CWEAVE) $< - $@"]), (".web.p", ["$(TANGLE) $<"]), (".web.tex", ["$(WEAVE) $<"])]

/-- Rules of patterns: targets, what they are made from, commands, and whether that must be there. -/
def usualPatterns : List (String × List String × List String × Bool) :=
  [("(%)", ["%"], ["$(AR) $(ARFLAGS) $@ $<"], false),
    ("%.out", ["%"], ["@rm -f $@ ", " cp $< $@"], false),
    ("%.c", ["%.w", "%.ch"], ["$(CTANGLE) $^ $@"], false),
    ("%.tex", ["%.w", "%.ch"], ["$(CWEAVE) $^ $@"], false),
    ("%", ["%,v"], ["$(CHECKOUT,v)"], true), ("%", ["RCS/%,v"], ["$(CHECKOUT,v)"], true),
    ("%", ["RCS/%"], ["$(CHECKOUT,v)"], true),
    ("%", ["s.%"], ["$(GET) $(GFLAGS) $(SCCS_OUTPUT_OPTION) $<"], true),
    ("%", ["SCCS/s.%"], ["$(GET) $(GFLAGS) $(SCCS_OUTPUT_OPTION) $<"], true)]

/-- Put down what is known before any makefile is read. -/
def putUsual : Making Unit := do
  let b ← get
  let usual (recursive : Bool) (all : List (String × String)) : Scope :=
    all.map fun (name, value) => (name, { value, recursive, origin := .usual })
  let parts : Scope := partValues.map fun (name, value) => (name, { value, origin := .automatic })
  let suffixes := if b.manner.withoutRules then [] else usualSuffixes
  let suffixText : Variable := { value := unwords suffixes, recursive := false, origin := .usual }
  let tools := if b.manner.withoutVariables then [] else usual true usualValues
  let all := usual false usualTexts ++ parts ++ tools ++ [("SUFFIXES", suffixText)]
  modify fun b => { b with vars := all.foldl (fun s (name, v) =>
    if s.any (·.1 == name) then s else s ++ [(name, v)]) b.vars }
  modify fun b => b.withTarget ".SUFFIXES" |>.withTarget ".DEFAULT"
  let ps ← entered none (suffixes.map fun name => { name })
  modify fun b => b.adjusted ⟨".SUFFIXES", 0⟩ fun t => { t with prerequisites := ps }
  if !b.manner.withoutRules then
    for (name, lines) in suffixRecipes do
      modify fun b => (b.withTarget name).adjusted ⟨name, 0⟩ fun t =>
        { t with recipe := some { lines, spot := none } }

/-- The rules of patterns that suffixes stand for, and the usual ones behind them. -/
def putPatterns : Making Unit := do
  let b ← get
  let suffixes := ((b.find? ".SUFFIXES").map fun t => t.prerequisites.map (·.name)).getD []
  let recipeOf (name : String) : Option Recipe := (b.find? name).bind (·.recipe)
  let put (target : String) (source : Option String) (recipe : Option Recipe) : Making Unit :=
    putPatternRule false {
      targets := [.around [] target.toList], recipe
      prerequisites := source.toList.map fun s => { name := "%" ++ s } }
  for a in suffixes do
    put a none none
    match recipeOf a with
    | some recipe => put "" (some a) recipe
    | none => pure ()
    for z in suffixes do
      if a != z then
        match recipeOf (a ++ z) with
        | some recipe => do
          let isBare := ((b.find? (a ++ z)).map (·.prerequisites.isEmpty)).getD true
          if isBare || !b.isPosix then
            if !isBare then
              tellAt recipe.spot "warning: ignoring prerequisites on suffix rule definition"
            put z (some a) recipe
        | none => pure ()
  if !b.manner.withoutRules then
    for (target, sources, lines, isTerminal) in usualPatterns do
      putPatternRule false {
        targets := [.ofString target], prerequisites := sources.map fun name => { name }
        recipe := some { lines, spot := none }, isTerminal }

end Ensemble.Utility.Making

/-! ### Between reading and making -/

namespace Ensemble.Utility.Making

/-! ### Late prerequisites -/

/-- Expand the prerequisites of an entry that are expanded late. -/
def expandLate (k : Key) : Making Unit := do
  let t ← targetAt k
  if t.prerequisites.any (·.isLate) then
    let mut kept : List Prerequisite := []
    for p in t.prerequisites do
      if !p.isLate then kept := kept ++ [p]
      else
        let stem := p.stem.orElse fun _ => t.stem
        adjust k fun t => { t with stem := stem }
        prepareScope k
        let text := if p.isPattern then p.name.replace "%" "$*" else p.name
        let value ← expandFor k (t.recipe.bind (·.spot)) text
        adjust k fun now => { now with stem := t.stem }
        kept := kept ++ (← entered p.stem (← prerequisitesIn value.toList))
    let all := kept
    adjust k fun t => { t with prerequisites := all }

/-- Do something with all entries that a special target names. -/
def forNamed (special : String) (f : Target → Target) : Making Unit := do
  for k in (← get).keysOf special do
    for p in (← targetAt k).prerequisites do
      for named in (← get).keysOf p.name do adjust named f

/-- Are there prerequisites of a special target? -/
def hasSources (special : String) : Making Bool := do
  let b ← get
  return (b.keysOf special).any fun k => !((b.target? k).map (·.prerequisites.isEmpty)).getD true

/-- Do what is to be done when all has been read. -/
def closeReading : Making Unit := do
  modify fun b => { b with isRead := true, spot := none }
  if (← get).isExpandingTwice then
    for name in ".SUFFIXES" :: (← get).names.filter (· != ".SUFFIXES") do
      for k in (← get).keysOf name do expandLate k
  forNamed ".PRECIOUS" fun t => { t with isPrecious := true }
  forNamed ".PHONY" fun t =>
    { t with isPhony := true, isTarget := true, age := some .missing, ageBefore := some .missing }
  forNamed ".INTERMEDIATE" fun t => { t with isIntermediate := true }
  forNamed ".SECONDARY" fun t => { t with isIntermediate := true, isSecondary := true }
  let b ← get
  if b.hasMark ".SECONDARY" && !(← hasSources ".SECONDARY") then
    modify fun b => { b with
      allSecondary := true
      targets := b.targets.map fun _ all =>
        all.map fun t => { t with isIntermediate := true, isSecondary := true } }
  if b.hasMark ".EXPORT_ALL_VARIABLES" then modify fun b => { b with exportsAll := true }
  if b.hasMark ".IGNORE" then
    if ← hasSources ".IGNORE" then forNamed ".IGNORE" fun t => { t with isIgnoring := true }
    else modify fun b => { b with manner := { b.manner with ignoring := true } }
  if b.hasMark ".SILENT" then
    if ← hasSources ".SILENT" then forNamed ".SILENT" fun t => { t with isSilent := true }
    else modify fun b => { b with manner := { b.manner with silent := true } }
  putPatterns
  let everywhere ← expand "$(strip $(VPATH))"
  modify fun b => { b with
    places := match directoriesIn everywhere.toList with
      | [] => b.places
      | dirs => b.places ++ [(.around [] [], dirs)] }

/-! ### Makefiles -/

/-- Is a makefile made again in any case? -/
def isEndless (b : Book) (m : Makefile) : Bool :=
  (b.keysOf m.name).any fun k =>
    match b.target? k with
    | some t => t.isDouble && t.prerequisites.isEmpty && t.recipe.isSome
    | none => false

/-- The ages of makefiles. -/
def agesOf (ms : List Makefile) : Making (List Age) :=
  ms.mapM fun m => ageOf ⟨m.name, 0⟩ false

/-- Make the makefiles that have been read; must they be read again? The status of the end is changed if
one that is wanted cannot be made. -/
def remakeMakefiles : Making (Bool × Nat) := do
  let b ← get
  let (endless, files) := b.makefiles.partition (isEndless b)
  let skipped := endless.filter fun m => m.isMissing && !m.mayMiss
  let before ← agesOf files
  let mut status := Outcome.untried
  let mut isOver := false
  modify fun b => { b with isRemaking := true }
  for m in files do
    if !isOver then
      let keys := (← get).keysOf m.name
      for key in keys do
        adjust key fun t => { t with mayMiss := m.mayMiss }
        let isGoal := (← targetAt key).isGoal
        let manner := b.manner
        modify fun now => { now with
          owed := m.told
          manner := if isGoal then manner
            else { manner with onlyTold := false, onlyAsked := false, touching := false } }
        let outcome ← update updateDepth false key
        let t ← targetAt key
        if (outcome != .done || t.isUpdated) && status.rank < Outcome.wanted.rank then
          if t.outcome != .done then status := t.outcome
          else if some (← ageOf key false) != t.ageBefore then
            let b ← get
            if !b.manner.onlyTold && !b.manner.onlyAsked then status := .done
            if t.mayMiss then isOver := true
        adjust key fun t => { t with mayMiss := false }
  modify fun now => { now with isRemaking := false, owed := none, manner := b.manner }
  for m in skipped do
    match m.told with
    | some told => tell told
    | none => pure ()
  if status = .done then return (true, 0)
  if status = .failed then
    let mut isRemade := false
    let mut code := 0
    for (m, age) in files.zip before do
      let t ← targetAt ⟨m.name, 0⟩
      if t.isUpdated then
        if t.outcome = .done then isRemade := isRemade || (← ageOf ⟨m.name, 0⟩ false) != age
        else if !m.mayMiss then
          tellAt none ("Failed to remake makefile '" ++ t.place ++ "'.")
          let now ← ageOf ⟨m.name, 0⟩ false
          isRemade := isRemade || now != .missing && now != age
          code := 2
    if isRemade then return (true, code)
    if !skipped.isEmpty then leave 2
    return (false, code)
  if !skipped.isEmpty then leave 2
  return (false, 0)

end Ensemble.Utility.Making
