import Sansshell.Proxy.Wire
import Sansshell.Proxy.StreamSet
import Sansshell.Proxy.Session
import Sansshell.Proxy.Steps
import Sansshell.Proxy.Invariants
import Sansshell.Proxy.Relay
import Sansshell.Proxy.Teardown
import Sansshell.Proxy.Streams
import Sansshell.Proxy.Outcome
import Sansshell.Proxy.Registry
import Sansshell.Proxy.Lifecycle
import Sansshell.Proxy.Shutdown
import Sansshell.Generator.Generate
import Sansshell.Generator.Layout
import Sansshell.Generator.Imports
import Sansshell.Generator.Interfaces
import Sansshell.Client.Templates
import Sansshell.Client.Recv
import Sansshell.Client.OneMany
