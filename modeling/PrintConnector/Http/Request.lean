import PrintConnector.Text.Percent

namespace PrintConnector.Http

/-- A GET that asks for the connection to be kept, conditional on a date if one
is given. -/
def getRequest (path host : String) (since : Option String) : String :=
  let condition := match since with
    | some since => s!"If-Modified-Since: {since}\r\n"
    | none => ""
  s!"GET {path} HTTP/1.1\r\nHost: {host}\r\nUser-Agent: printbridge/0.3.0\r\n" ++
    "Connection: keep-alive\r\n" ++ condition ++ "\r\n"

/-- The path of a printer. -/
def printerPath (printer : String) : String :=
  "/printers/" ++ Text.Percent.encode printer

/-- The path of a printer's description. -/
def ppdPath (printer : String) : String :=
  printerPath printer ++ ".ppd"

end PrintConnector.Http
