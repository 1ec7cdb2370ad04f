import Expansion.Compiler.Delivery
import Expansion.Document
import Expansion.ResultCache
import Expansion.Survey.Fragments

/-!
# The workbench

A compiler and the results of the builds that it has done. Every operation begins in the same way
(`surveySources`): all sources are there, they compile, and the module is surveyed.

* `generate` goes on to the generated document, and `survey` stops at the survey; neither touches
  the cache or writes a file.
* **`build`** delivers the document as the configuration says and remembers the result; a
  configuration that asks for the same is answered from the cache, and nothing is compiled.
* Each build that is not answered from the cache is logged as a span, with its standard events.
-/

namespace Expansion

/-- A compiler and the results of its builds. -/
structure Workbench where
  compiler : Compiler
  cache : ResultCache BuildResult

namespace Workbench

/-- A workbench with nothing built. -/
def ofCompiler (c : Compiler) : Workbench := ⟨c, .empty⟩

/-- The event of a function that is no expander though it is marked as one. -/
def announceSkipped (skipped : String × Misshape) : Act Unit :=
  Act.debug .survey "skipping tagged function with unsupported shape"
    [("function", .text skipped.1), ("reason", .text skipped.2.message)]

/-- The survey of a module, with its events. -/
def surveyModule (m : Module) : Act (Survey Machine) := do
  (Survey.skipped m).forM announceSkipped
  let s := Survey.ofModule m
  Act.debug .survey "scanned module"
    [("module", .text m.name), ("types", .number s.types.length),
      ("expanders", .number s.expanders.length)]
  pure s

/-- The module of the sources and its survey. -/
def surveySources (c : Compiler) (config : Configuration) : Act (Module × Survey Machine) := do
  match config.sources.missing (← Act.disk) with
  | [] =>
    let m ← c.compile config.sources.paths config.references config.flags .memory
    let s ← surveyModule m
    pure (m, s)
  | missing => Act.fail (.missingSources missing)

/-- The fragments of a survey, with the event of an expander that gives up. -/
def expand (s : Survey Machine) : Act (List String) := fun m =>
  match s.expand m with
  | (.ok fragments, after) => (.ok fragments, after)
  | (.error fault, after) =>
    (.error (.expansion fault.expander fault.typeName fault.message),
      after.log .error .expansion "expander faulted"
        [("expander", .text fault.expander), ("type_name", .text fault.typeName),
          ("error", .text fault.message)]
        (some .expanderFailed))

/-- The generated document of a configuration. -/
def generate (w : Workbench) (config : Configuration) : Act String := do
  let (_, s) ← surveySources w.compiler config
  let fragments ← expand s
  pure (Document.ofFragments fragments)

/-- What a configuration's sources offer. -/
def survey (w : Workbench) (config : Configuration) : Act (Survey Machine) := do
  let (_, s) ← surveySources w.compiler config
  pure s

/-- The span of a build. -/
def buildSpan (config : Configuration) : Log.Span where
  level := .info
  area := .build
  name := "build"
  fields := [("fingerprint", .text config.fingerprint), ("mode", .text config.mode.name)]

/-- The work of a build: survey, expand, assemble and deliver. -/
def work (c : Compiler) (config : Configuration) : Act BuildResult := do
  Act.milestone .info .build .buildStarted "starting build"
    [("sources", .number config.sources.paths.length)]
  let (scratch, s) ← surveySources c config
  let fragments ← expand s
  let generated := Document.ofFragments fragments
  if generated.isEmpty then
    Act.modify (Machine.log .info .build "no expander produced output" [] none)
  let result ← c.deliver config generated scratch
  Act.milestone .info .build .buildFinished "build finished"
    [("types", .number s.types.length), ("expanders", .number s.expanders.length),
      ("generated_bytes", .number result.generated.utf8ByteSize), ("elapsed_ms", .duration)]
  pure result

/-- A build that is not answered from the cache. -/
def run (c : Compiler) (config : Configuration) : Act BuildResult :=
  Act.within (buildSpan config) (work c config)

/-- The machine after a build was answered from the cache. -/
def logHit (config : Configuration) (m : Machine) : Machine :=
  m.log .debug .cache "reusing cached build" [("fingerprint", .text config.fingerprint)]
    (some .cacheHit)

/-- The result of a configuration, from the cache or newly built. -/
def build (w : Workbench) (config : Configuration) :
    StateM Machine (Except Failure (Kept BuildResult) × Workbench) := do
  -- The event belongs to the answer from the cache, and comes before it.
  if w.cache.contains config then modify (logHit config)
  let (result, cache) ← w.cache.getOrBuild config (run w.compiler config).run
  pure (result, { w with cache })

/-- The bytes of the module that a host program should load after the last build. -/
def latestImage? (w : Workbench) : Option ByteArray :=
  w.cache.latest?.map fun (config, kept) => (kept.result.hostModule config.mode).image

end Workbench

end Expansion
