import MetaGuildNet.L1Python.Value
import MetaGuildNet.L1Python.Str
import MetaGuildNet.L1Python.Markup
import MetaGuildNet.L2Transport.Request
import MetaGuildNet.L3Resource.Api
import MetaGuildNet.L3Resource.Target
import MetaGuildNet.L4Waiter.Poll
import MetaGuildNet.L4Waiter.WaitWorkspace
import MetaGuildNet.L4Waiter.RunnerWait
import MetaGuildNet.L5App.ClusterCli
import MetaGuildNet.L5App.Config
import MetaGuildNet.L5App.Startup
import MetaGuildNet.L5App.Render
import MetaGuildNet.L5App.Database
import MetaGuildNet.L5App.Viz
import MetaGuildNet.L5App.Dashboard
import MetaGuildNet.L5App.WorkspaceCli
import MetaGuildNet.L5App.RunnerExamples
import MetaGuildNet.L5App.Runner
import MetaGuildNet.L5App.Install
import MetaGuildNet.L5App.Installer
import MetaGuildNet.L5App.Validator
import MetaGuildNet.L5App.Visualizer
