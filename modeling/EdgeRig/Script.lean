/-!
# Script templates

The module sources that the rig itself installs: the stub of a worker without a script, the default
mock of a service, and the store and the router that stand in front of a worker with static files.
They are data to the rig, which never runs them.

`Script.ofLines` ends every line with a line feed; all templates start with an empty line.
-/

namespace EdgeRig

namespace Script

/-- A text of lines, each ended by a line feed. -/
def ofLines (ls : List String) : String := String.join (ls.map fun l => l ++ "\n")

/-- The body of a worker that has none: it finds nothing. -/
def stub : String :=
  ofLines
    ["",
     "export default \x7b",
     "  fetch() \x7b",
     "    return new Response(\"Not found\", \x7b status: 404 \x7d);",
     "  \x7d",
     "\x7d"]

/-- The body of a service for which there is no mock. -/
def defaultMock (service status : String) : String :=
  ofLines
    ["",
     "export default \x7b",
     "  fetch(request) \x7b",
     "    console.log(`(worker-harness) mock for service '" ++ service ++
       "' received a request for: $\x7brequest.url\x7d`);",
     "    return new Response(\"Service not implemented in test environment\", \x7b status: " ++
       status ++ " \x7d);",
     "  \x7d",
     "\x7d"]

/-! ## The asset workers -/

/-- The media type of a file whose extension is unknown. -/
def defaultMediaType : String := "application/octet-stream"

/-- The media types of file extensions. -/
def mediaTypes : List (String × String) :=
  [("html", "text/html; charset=utf-8"),
   ("htm", "text/html; charset=utf-8"),
   ("css", "text/css; charset=utf-8"),
   ("js", "application/javascript; charset=utf-8"),
   ("mjs", "application/javascript; charset=utf-8"),
   ("json", "application/json; charset=utf-8"),
   ("map", "application/json; charset=utf-8"),
   ("txt", "text/plain; charset=utf-8"),
   ("xml", "application/xml; charset=utf-8"),
   ("svg", "image/svg+xml"),
   ("png", "image/png"),
   ("jpg", "image/jpeg"),
   ("jpeg", "image/jpeg"),
   ("gif", "image/gif"),
   ("webp", "image/webp"),
   ("ico", "image/x-icon"),
   ("wasm", "application/wasm"),
   ("woff", "font/woff"),
   ("woff2", "font/woff2"),
   ("pdf", "application/pdf")]

/-- The table of media types as the lines of an object literal, the last of them without a line
feed. -/
def mediaTypeLines : List (String × String) → List String
  | [] => []
  | [(e, t)] => ["  \"" ++ e ++ "\": \"" ++ t ++ "\""]
  | (e, t) :: rest => ("  \"" ++ e ++ "\": \"" ++ t ++ "\",") :: mediaTypeLines rest

/-- The name under which the router reaches the store. -/
def storeBinding : String := "ASSET_STORE"

/-- The name under which the router reaches the worker behind it. -/
def originBinding : String := "ORIGIN"

/-- The body of the worker that serves the files of a directory. -/
def store : String :=
  ofLines <|
    ["",
     "import manifestJSON from \"__STATIC_CONTENT_MANIFEST\";",
     "",
     "const manifest = JSON.parse(manifestJSON);",
     "const MIME_TYPES = \x7b"] ++
    mediaTypeLines mediaTypes ++
    ["\x7d;",
     "const DEFAULT_MIME_TYPE = \"" ++ defaultMediaType ++ "\";",
     "",
     "function lookup(path) \x7b",
     "  if (manifest[path] !== undefined) \x7b",
     "    return \x7b path, key: manifest[path] \x7d;",
     "  \x7d",
     "",
     "  const indexPath = (path === \"\" || path.endsWith(\"/\"))",
     "    ? `$\x7bpath\x7dindex.html`",
     "    : `$\x7bpath\x7d/index.html`;",
     "",
     "  if (manifest[indexPath] !== undefined) \x7b",
     "    return \x7b path: indexPath, key: manifest[indexPath] \x7d;",
     "  \x7d",
     "",
     "  return null;",
     "\x7d",
     "",
     "function mimeType(path) \x7b",
     "  const dot = path.lastIndexOf(\".\");",
     "  if (dot === -1 || dot < path.lastIndexOf(\"/\")) \x7b",
     "    return DEFAULT_MIME_TYPE;",
     "  \x7d",
     "  return MIME_TYPES[path.slice(dot + 1).toLowerCase()] ?? DEFAULT_MIME_TYPE;",
     "\x7d",
     "",
     "export default \x7b",
     "  async fetch(request, env) \x7b",
     "    const url = new URL(request.url);",
     "    const path = decodeURIComponent(url.pathname).replace(/^\\/+/, \"\");",
     "",
     "    const entry = lookup(path);",
     "    if (entry !== null) \x7b",
     "      const body = await env.__STATIC_CONTENT.get(entry.key, \"arrayBuffer\");",
     "      if (body !== null) \x7b",
     "        return new Response(body, \x7b",
     "          status: 200,",
     "          headers: \x7b \"Content-Type\": mimeType(entry.path) \x7d,",
     "        \x7d);",
     "      \x7d",
     "    \x7d",
     "",
     "    return new Response(\"Not found\", \x7b status: 404 \x7d);",
     "  \x7d",
     "\x7d"]

/-- The body of the worker that asks the store first and the origin when the store has nothing. -/
def router : String :=
  ofLines
    ["",
     "export default \x7b",
     "  async fetch(request, env) \x7b",
     "    const asset = await env." ++ storeBinding ++ ".fetch(request.clone());",
     "    if (asset.status === 404) \x7b",
     "      return env." ++ originBinding ++ ".fetch(request);",
     "    \x7d",
     "    return asset;",
     "  \x7d",
     "\x7d"]

end Script

end EdgeRig
