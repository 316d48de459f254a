import Reprox.Foundations.Table
import Reprox.Config.Validation

/-!
# The static fallback site

The site is read once from a directory tree into a table of files keyed by URL
path. A tree is what the file system shows while it is walked, failures
included; formatting a date belongs to a library and is a parameter. The library
panics at a date it cannot format, so a load that fails need not report why.
-/

namespace Reprox.Routing

open Foundations Config

/-- Nanoseconds since the Unix epoch. -/
abbrev SystemTime := ℤ

mutual

inductive Entry where
  | file (bytes : Bytes) (modified : Option SystemTime)
  | dir (children : Directory)
  /-- Neither a regular file nor a directory. -/
  | other
  | unreadableFile (report : Report)
  | unreadableDir (report : Report)
  /-- The listing breaks off at it, or its type or its metadata cannot be had. -/
  | failing (report : Report)

inductive Directory where
  | nil
  | cons (name : Text) (entry : Entry) (rest : Directory)

end

structure FileEntry where
  bytes : Bytes
  contentType : Text
  etag : Text
  lastModified : Text
  deriving DecidableEq, Repr

structure StaticSite where
  files : Table Text FileEntry
  notFound : FileEntry

def default404Html : Text :=
  ("<!doctype html><html lang=\"en\"><head><meta charset=\"utf-8\"><title>404 Not Found</title>" ++
    "</head><body><h1>404 Not Found</h1><p>The page you requested does not exist.</p></body>" ++
    "</html>").toList

def contentTypeFor (ext : Text) : Text :=
  (match String.ofList ext.toAsciiLowercase with
  | "html" | "htm" => "text/html; charset=utf-8"
  | "css" => "text/css; charset=utf-8"
  | "js" | "mjs" => "application/javascript; charset=utf-8"
  | "json" => "application/json; charset=utf-8"
  | "svg" => "image/svg+xml"
  | "png" => "image/png"
  | "jpg" | "jpeg" => "image/jpeg"
  | "gif" => "image/gif"
  | "ico" => "image/x-icon"
  | "webp" => "image/webp"
  | "woff" => "font/woff"
  | "woff2" => "font/woff2"
  | "ttf" => "font/ttf"
  | "txt" => "text/plain; charset=utf-8"
  | "xml" => "application/xml; charset=utf-8"
  | "webmanifest" => "application/manifest+json"
  | _ => "application/octet-stream").toList

def makeEtag (size mtimeSecs : ℕ) : Text :=
  '"' :: Text.ofNatHex mtimeSecs ++ '-' :: Text.ofNatHex size ++ ['"']

/-- `Path::extension` of a file name: what follows the last dot, unless that is
the first character. -/
def extension (name : Text) : Option Text :=
  match Text.rsplitOnce '.' name with
  | some (_ :: _, ext) => some ext
  | _ => none

/-- A start that fails: with a report, or by a panic. -/
inductive Fault where
  | reported (report : Report)
  | panicked
  deriving DecidableEq, Repr

def reported {α : Type} : Except Report α → Except Fault α
  | .ok a => .ok a
  | .error report => .error (.reported report)

/-- `fmt_http_date` panics before the epoch and from the year 10000 on. -/
def HasHttpDate (t : SystemTime) : Prop := 0 ≤ t ∧ t < 253402300800 * 1000000000

instance (t : SystemTime) : Decidable (HasHttpDate t) := inferInstanceAs (Decidable (_ ∧ _))

section Load

variable (fmtHttpDate : SystemTime → Text)

def fileEntry (name : Text) (bytes : Bytes) (modified : Option SystemTime) : FileEntry :=
  let mtime := modified.getD 0
  let mtimeSecs := (mtime / 1000000000).toNat
  { bytes
    contentType := contentTypeFor ((extension name).getD [])
    etag := makeEtag bytes.length mtimeSecs
    lastModified := fmtHttpDate mtime }

/-- The key of a file: its path below the root, with backslashes as slashes. -/
def urlPath (rel : List Text) : Text :=
  '/' :: (['/'].intercalate rel).map fun c => if c = '\\' then '/' else c

def joinPath (root : Text) (rel : List Text) : Text := rel.foldl Text.pushPath root

example : joinPath "static/".toList ["a".toList, "b".toList] = "static/a/b".toList := by decide

mutual

/-- The step of `walk_dir` for the entry that is reached by `rel` and `name`. -/
def walkEntry (root : Text) (rel : List Text) (name : Text) (out : Table Text FileEntry) :
    Entry → Except Fault (Table Text FileEntry)
  | .file bytes modified =>
    if HasHttpDate (modified.getD 0) then
      .ok (out.insert (urlPath (rel ++ [name])) (fileEntry fmtHttpDate name bytes modified))
    else .error .panicked
  | .dir children => walkDir root (rel ++ [name]) out children
  | .other => .ok out
  | .unreadableFile report =>
    reported (withContext ("reading file ".toList ++ Text.quoted (joinPath root (rel ++ [name])))
      (.error report))
  | .unreadableDir report =>
    reported (withContext
      ("reading directory ".toList ++ Text.quoted (joinPath root (rel ++ [name]))) (.error report))
  | .failing report => .error (.reported report)

def walkDir (root : Text) (rel : List Text) (out : Table Text FileEntry) :
    Directory → Except Fault (Table Text FileEntry)
  | .nil => .ok out
  | .cons name entry rest => do
    let out ← walkEntry root rel name out entry
    walkDir root rel out rest

end

/-- The page for what is missing, of a site that has none. -/
def default404 (now : SystemTime) : FileEntry :=
  let bytes := Text.utf8 default404Html
  { bytes
    contentType := "text/html; charset=utf-8".toList
    etag := makeEtag bytes.length 0
    lastModified := fmtHttpDate now }

namespace StaticSite

def indexKey : Text := "/index.html".toList

/-- `try_load`, at the moment `now`. -/
def tryLoad (now : SystemTime) (root : Text) (listing : Except Report Directory) :
    Except Fault StaticSite := do
  let directory ← reported (withContext ("reading directory ".toList ++ Text.quoted root) listing)
  let files ← walkDir fmtHttpDate root [] .empty directory
  reported (ensure ((files.get? indexKey).isSome)
    ("static_dir (".toList ++ Text.quoted root ++
      ") must contain an index.html at its root".toList))
  match files.get? "/404.html".toList with
  | some page => pure ⟨files, page⟩
  | none =>
    if HasHttpDate now then pure ⟨files, default404 fmtHttpDate now⟩ else .error .panicked

def resolve (site : StaticSite) (rawPath : Text) : Option FileEntry :=
  let path := rawPath.takeWhile (· ≠ '?')
  let key := if path = "/".toList ∨ path = [] then indexKey else path
  site.files.get? key

end StaticSite

end Load

@[simp] theorem reported_eq_ok {α : Type} {x : Except Report α} {a : α} :
    reported x = .ok a ↔ x = .ok a := by
  cases x <;> simp [reported]

@[simp] theorem reported_eq_error {α : Type} {x : Except Report α} {fault : Fault} :
    reported x = .error fault ↔ ∃ report, x = .error report ∧ fault = .reported report := by
  cases x <;> simp [reported, eq_comm]

end Reprox.Routing
