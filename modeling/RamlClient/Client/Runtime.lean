import RamlClient.Go.Render
/-!
# The runtime of a generated client

Every generated package has a file with the client itself: it holds the base address, sends the
requests, and runs the filters for cookies and for authorization.
-/

namespace RamlClient.Client

/-- The name of the runtime's file. -/
def runtimeName : String := "bootstrap.go"

/-- The lines of the runtime's file. -/
def runtimeLines : List String :=
  ["package client",
   "",
   "import (",
   "\t\x22fmt\x22",
   "\t\x22net/http\x22",
   "\t\x22net/http/cookiejar\x22",
   ")",
   "",
   "// Client issues requests against the API. The zero value is ready to use.",
   "type Client struct \x7b",
   "\t// BaseURL replaces the API's default base URL when set.",
   "\tBaseURL string",
   "\t// HTTP sends the requests; http.DefaultClient is used when nil.",
   "\tHTTP    *http.Client",
   "\tfilters []Filter",
   "\x7d",
   "",
   "// NewClient returns a Client sending its requests through httpClient.",
   "func NewClient(httpClient *http.Client) *Client \x7b",
   "\treturn &Client\x7bHTTP: httpClient\x7d",
   "\x7d",
   "",
   "// AddFilter adds a filter which hooks into part of the HTTP lifecycle.",
   "func (c *Client) AddFilter(f Filter) \x7b",
   "\tc.filters = append(c.filters, f)",
   "\x7d",
   "",
   "// EnableCookies sets the client up to send and track cookies from the server.",
   "func (c *Client) EnableCookies() \x7b",
   "\tjar, _ := cookiejar.New(nil)",
   "\tc.AddFilter(&cookieJar\x7bjar: jar\x7d)",
   "\x7d",
   "",
   "// UseOAuth adds a filter which includes an OAuth \x60Authorization\x60 header",
   "// in requests.",
   "func (c *Client) UseOAuth(token string) \x7b",
   "\tc.AddFilter(&oauthFilter\x7btoken: token\x7d)",
   "\x7d",
   "",
   "func (c *Client) url(path string) string \x7b",
   "\tif c.BaseURL != \x22\x22 \x7b",
   "\t\treturn c.BaseURL + path",
   "\t\x7d",
   "\treturn defaultBaseURL() + path",
   "\x7d",
   "",
   "func (c *Client) do(req *http.Request) (*http.Response, error) \x7b",
   "\tfor _, f := range c.filters \x7b",
   "\t\tf.Before(req)",
   "\t\x7d",
   "",
   "\thttpClient := c.HTTP",
   "\tif httpClient == nil \x7b",
   "\t\thttpClient = http.DefaultClient",
   "\t\x7d",
   "",
   "\tres, err := httpClient.Do(req)",
   "\tif err != nil \x7b",
   "\t\treturn res, err",
   "\t\x7d",
   "",
   "\tfor _, f := range c.filters \x7b",
   "\t\tf.After(res)",
   "\t\x7d",
   "",
   "\treturn res, nil",
   "\x7d",
   "",
   "// A Filter can be attached to the Client to modify outgoing requests.",
   "// They can be used to implement authentication, user-agent handling, etc.",
   "type Filter interface \x7b",
   "\tBefore(request *http.Request)",
   "\tAfter(response *http.Response)",
   "\x7d",
   "",
   "// StatusError is returned when the API answers with a status code of 300",
   "// or above. The response body is left unread.",
   "type StatusError struct \x7b",
   "\tResponse *http.Response",
   "\x7d",
   "",
   "func (e *StatusError) Error() string \x7b",
   "\treturn fmt.Sprintf(\x22unexpected response status: %s\x22, e.Response.Status)",
   "\x7d",
   "",
   "// cookieJar stores HTTP cookies, adding them to requests and updating",
   "// the jar based on responses.",
   "type cookieJar struct\x7b jar http.CookieJar \x7d",
   "",
   "var _ Filter = new(cookieJar)",
   "",
   "func (c *cookieJar) Before(req *http.Request) \x7b",
   "\tfor _, cookie := range c.jar.Cookies(req.URL) \x7b",
   "\t\treq.AddCookie(cookie)",
   "\t\x7d",
   "\x7d",
   "",
   "func (c *cookieJar) After(res *http.Response) \x7b",
   "\tif cookies := res.Cookies(); len(cookies) > 0 \x7b",
   "\t\tc.jar.SetCookies(res.Request.URL, cookies)",
   "\t\x7d",
   "\x7d",
   "",
   "// oauthFilter adds an \x60Authorization\x60 header to outgoing requests.",
   "type oauthFilter struct\x7b token string \x7d",
   "",
   "var _ Filter = new(oauthFilter)",
   "",
   "func (o *oauthFilter) Before(req *http.Request) \x7b " ++
     "req.Header.Set(\x22Authorization\x22, \x22OAuth \x22+o.token) \x7d",
   "func (o *oauthFilter) After(res *http.Response) \x7b\x7d"]

/-- The text of the runtime's file. -/
def runtimeText : String := Text.concat (runtimeLines.map (· ++ "\n"))

/-- The names that the runtime declares in the package or as methods of the client, and that
generated definitions must not have. -/
def runtimeNames : List String :=
  ["Client", "NewClient", "Filter", "StatusError", "cookieJar", "oauthFilter", "AddFilter",
   "EnableCookies", "UseOAuth"]

/-- The runtime's file as it is copied into a package. -/
def runtimeInclude : Go.Include := .text runtimeName runtimeText

end RamlClient.Client
