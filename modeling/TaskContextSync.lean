import TaskContextSync.SyncData
import TaskContextSync.CallbackQuery
import TaskContextSync.Listener
import TaskContextSync.FormUrlencoded
import TaskContextSync.Handoff
import TaskContextSync.AgentConfiguration
import TaskContextSync.App
import TaskContextSync.Truncate
import TaskContextSync.SearchFilter
import TaskContextSync.LlmPost
import TaskContextSync.FileSearch
import TaskContextSync.Scoping
import TaskContextSync.LastWriteWins
import TaskContextSync.CardLifecycle
import TaskContextSync.ContextServers
