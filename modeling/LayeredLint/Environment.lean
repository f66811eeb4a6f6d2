import LayeredLint.Failure
import LayeredLint.Value.Key

/-!
# Environments

The global names that common runtimes predefine, with the access to each.

- `Environment`: the known runtimes, in the order they are listed.
- `Environment.globals`: the globals of a runtime.
- `mergedGlobals`: the globals of several runtimes, of which the last decides on each name.
-/

namespace LayeredLint

/-- A runtime that predefines globals. -/
inductive Environment where
  | browser
  | amd
  | node
  deriving DecidableEq, Repr

namespace Environment

/-- All environments, in the order they are listed. -/
def all : List Environment := [.browser, .amd, .node]

/-- The name of an environment. -/
def name : Environment → String
  | .browser => "browser"
  | .amd => "amd"
  | .node => "node"

/-- The environment of a name. -/
def ofName? (s : String) : Option Environment :=
  all.find? fun e => e.name = s

/-- The globals of a browser that are only read. -/
def browserNames : List String :=
  ["AbortController", "AbortSignal", "Blob", "CustomEvent", "DOMParser", "Event", "EventTarget",
   "File", "FileReader", "FormData", "HTMLElement", "Headers", "IntersectionObserver",
   "MutationObserver", "Request", "Response", "URL", "URLSearchParams", "WebSocket", "Worker",
   "alert", "atob", "btoa", "cancelAnimationFrame", "clearInterval", "clearTimeout", "console",
   "crypto", "customElements", "document", "fetch", "history", "indexedDB", "localStorage",
   "location", "navigator", "performance", "queueMicrotask", "requestAnimationFrame",
   "sessionStorage", "setInterval", "setTimeout", "structuredClone", "window"]

/-- The globals of a server that are only read, before the two that describe a module. -/
def nodeNames : List String :=
  ["AbortController", "Buffer", "URL", "URLSearchParams", "__dirname", "__filename",
   "clearImmediate", "clearInterval", "clearTimeout", "console", "fetch", "global", "process",
   "queueMicrotask", "require", "setImmediate", "setInterval", "setTimeout", "structuredClone"]

/-- Globals that are only read. -/
def readonly (names : List String) : List (String × GlobalAccess) :=
  names.map (·, .readonly)

/-- The globals of an environment. -/
def globals : Environment → Table String GlobalAccess
  | .browser =>
    .ofList (readonly browserNames ++ [("onload", .writable), ("onerror", .writable)])
  | .amd => .ofList (readonly ["define", "require"])
  | .node => .ofList (readonly nodeNames ++ [("exports", .writable), ("module", .readonly)])

end Environment

/-- The globals of the named environments, of which the last decides on each name. -/
def mergedGlobals : List String → Except Failure (Table String GlobalAccess) :=
  List.foldlM (fun merged name =>
    match Environment.ofName? name with
    | some environment => .ok (merged.union environment.globals)
    | none => invalid (.unknownEnvironment name)) .empty

end LayeredLint
